import ThemeSetup.Files.Resolve
import ThemeSetup.Install.Item
import ThemeSetup.Proofs.Text.Utf8

/-!
# Paths that end in a name

What an installation writes to is a directory path with one more name (`Path.IsName`) joined to it.
Such a path has the directory as its parent (`Path.parent?_join`), and following it is following
the directory and then the name (`Path.components_join`). `Path.Ancestor` is the chain of parents
that `Path.lineage` lists. With an ASCII name joined to it a path is UTF-8 exactly if it was before
(`Path.isSome_text?_join`).
-/

namespace ThemeSetup

namespace Path

/-- An octet string that names an entry of a directory: it is not idle, does not lead up and holds
no slash and no octet zero. -/
structure IsName (name : Bytes) : Prop where
  not_idle : isIdle name = false
  ne_up : name ≠ [dot, dot]
  slash_free : slash ∉ name
  zero_free : 0 ∉ name

instance (name : Bytes) : Decidable (IsName name) :=
  decidable_of_iff (isIdle name = false ∧ name ≠ [dot, dot] ∧ slash ∉ name ∧ 0 ∉ name)
    ⟨fun h => ⟨h.1, h.2.1, h.2.2.1, h.2.2.2⟩, fun h => ⟨h.1, h.2, h.3, h.4⟩⟩

/-- An ancestor of a path: the path itself, its parent, the parent of that, and so on. -/
inductive Ancestor : Path → Path → Prop
  | self {path : Path} : Ancestor path path
  | above {path parent ancestor : Path} :
      path.parent? = some parent → Ancestor parent ancestor → Ancestor path ancestor

/-- The paths that a lineage lists are ancestors. -/
theorem Ancestor.of_mem_lineageUpTo {ancestor : Path} :
    ∀ {count : Nat} {path : Path}, ancestor ∈ lineageUpTo count path → Ancestor path ancestor
  | 0, _, h => by
    rw [lineageUpTo, List.mem_singleton] at h
    exact h ▸ .self
  | count + 1, path, h => by
    rw [lineageUpTo, List.mem_cons] at h
    rcases h with rfl | h
    · exact .self
    · split at h
      · next parent hparent => exact .above hparent (of_mem_lineageUpTo h)
      · cases h

/-- The paths of the lineage of a path are its ancestors. -/
theorem Ancestor.of_mem_lineage {path ancestor : Path} (h : ancestor ∈ path.lineage) :
    Ancestor path ancestor :=
  of_mem_lineageUpTo h

section
variable {base path : Path} {name above : Bytes}

/-- A name is not empty. -/
theorem IsName.ne_nil (h : IsName name) : name ≠ [] := by
  rintro rfl
  exact absurd h.not_idle (by decide)

/-- A name is no absolute path. -/
theorem IsName.not_absolute (h : IsName name) : (Path.mk name).isAbsolute = false := by
  cases name with
  | nil => exact absurd rfl h.ne_nil
  | cons octet rest =>
    have hoctet : octet ≠ slash := fun hs => h.slash_free (hs ▸ List.mem_cons_self)
    simpa [isAbsolute] using hoctet

/-- The component that a name stands for. -/
theorem IsName.ofPart? (h : IsName name) : Component.ofPart? name = some (.name name) := by
  have hidle := h.not_idle
  simp only [isIdle, Bool.or_eq_false_iff, beq_eq_false_iff_ne] at hidle
  simp [Component.ofPart?, hidle.1, hidle.2, h.ne_up]

/-- The octets of a name joined to a path come last, and a slash is before them if anything is. -/
theorem bytes_join (base : Path) (h : IsName name) :
    (base.join ⟨name⟩).bytes = name ∨
      ∃ above, (base.join ⟨name⟩).bytes = above ++ slash :: name := by
  rw [join, if_neg (by simp [h.not_absolute])]
  split
  · next hb =>
    rw [Bool.or_eq_true, List.isEmpty_iff] at hb
    rcases hb with hempty | hslash
    · exact .inl (by simp [hempty])
    · rw [endsInSlash, beq_iff_eq] at hslash
      obtain ⟨above, habove⟩ := List.getLast?_eq_some_iff.1 hslash
      exact .inr ⟨above, by simp [habove]⟩
  · exact .inr ⟨base.bytes, rfl⟩

/-- A path that ends in a name does not end in a slash. -/
theorem endsInSlash_join (h : IsName name) : (base.join ⟨name⟩).endsInSlash = false := by
  have hlast : ∀ front : Bytes, (front ++ name).getLast? ≠ some slash := by
    intro front hs
    rw [List.getLast?_append, List.getLast?_eq_some_getLast h.ne_nil, Option.some_or] at hs
    exact h.slash_free (Option.some.inj hs ▸ List.getLast_mem h.ne_nil)
  rw [endsInSlash, beq_eq_false_iff_ne]
  rcases bytes_join base h with hb | ⟨above, hb⟩
  · simpa [hb] using hlast []
  · simpa [hb] using hlast (above ++ [slash])

/-- A name joined to a path that is not empty stands behind it, and behind a slash. -/
theorem bytes_join_of_ne_nil (hbase : base.bytes ≠ []) (h : IsName name) :
    (base.join ⟨name⟩).bytes =
      base.bytes ++ (if base.bytes.getLast? = some slash then [] else [slash]) ++ name := by
  rw [join, if_neg (by simp [h.not_absolute]), endsInSlash]
  by_cases hslash : base.bytes.getLast? = some slash
  · simp [hslash]
  · simp [hslash, hbase]

/-- There is a slash in a path made of a path that is not empty and a name. -/
theorem slash_mem_join (hbase : base.bytes ≠ []) (h : IsName name) :
    slash ∈ (base.join ⟨name⟩).bytes := by
  rw [bytes_join_of_ne_nil hbase h]
  split
  · next hslash => simp [List.mem_of_getLast? hslash]
  · simp

/-- A path that ends in a name is not empty. -/
theorem bytes_join_ne_nil (h : IsName name) : (base.join ⟨name⟩).bytes ≠ [] := by
  rcases bytes_join base h with hb | ⟨above, hb⟩
  · rw [hb]; exact h.ne_nil
  · simp [hb]

/-- The parts of a path with a slash and a last part without one. -/
theorem parts_append (h : slash ∉ name) (hb : path.bytes = above ++ slash :: name) :
    path.parts = (Path.mk above).parts ++ [name] := by
  rw [parts, hb, List.splitOn_append_cons_self, List.splitOn_eq_singleton h]
  rfl

/-- The last part of a path that ends in a name is that name. -/
theorem parts_join (base : Path) (h : IsName name) :
    ∃ front, (base.join ⟨name⟩).parts = front ++ [name] := by
  rcases bytes_join base h with hb | ⟨above, hb⟩
  · exact ⟨[], by rw [parts, hb, List.splitOn_eq_singleton h.slash_free]; rfl⟩
  · exact ⟨_, parts_append h.slash_free hb⟩

/-- The last component of a path that ends in a name is that name. -/
theorem components_join (base : Path) (h : IsName name) :
    ∃ front, (base.join ⟨name⟩).components = front ++ [.name name] := by
  obtain ⟨front, hfront⟩ := parts_join base h
  refine ⟨front.filterMap Component.ofPart?, ?_⟩
  rw [components, endsInSlash_join h]
  simp [steps, hfront, List.filterMap_append, h.ofPart?]

/-- Parts that end in one that is not idle lose nothing. -/
theorem dropIdleEnd_append {front : List Bytes} (h : isIdle name = false) :
    dropIdleEnd (front ++ [name]) = front ++ [name] := by
  simp [dropIdleEnd, h]

/-- The path made of the parts of a path is that path. -/
theorem ofParts_parts (path : Path) : ofParts path.parts = path := by
  rw [ofParts, parts, List.intercalate_splitOn]

end

/-! ## Directories that end in a name

The directories of a layout end in a name themselves, so a name joined to one of them takes a
slash of its own and nothing of the directory's path is dropped.
-/

/-- A path that ends in a name. -/
def EndsInName (path : Path) : Prop :=
  path.bytes ≠ [] ∧ path.endsInSlash = false ∧
    ∃ front name, isIdle name = false ∧ path.parts = front ++ [name]

/-- A path with a name joined to it ends in a name. -/
theorem EndsInName.join {base : Path} {name : Bytes} (h : IsName name) :
    EndsInName (base.join ⟨name⟩) :=
  have ⟨front, hfront⟩ := parts_join base h
  ⟨bytes_join_ne_nil h, endsInSlash_join h, front, name, h.not_idle, hfront⟩

section
variable {directory : Path} {name : Bytes}

/-- A name is joined to a directory that ends in a name with a slash between them. -/
theorem EndsInName.bytes_join (hd : EndsInName directory) (h : IsName name) :
    (directory.join ⟨name⟩).bytes = directory.bytes ++ slash :: name := by
  rw [Path.join, if_neg (by simp [h.not_absolute]), if_neg (by simp [hd.1, hd.2.1])]

/-- The components of a name in a directory are those of the directory, and the name. -/
theorem EndsInName.components_join (hd : EndsInName directory) (h : IsName name) :
    (directory.join ⟨name⟩).components = directory.components ++ [.name name] := by
  have hparts : (directory.join ⟨name⟩).parts = directory.parts ++ [name] :=
    parts_append h.slash_free (hd.bytes_join h)
  simp [components, steps, endsInSlash_join h, hd.2.1, hparts, h.ofPart?]

/-- A name in a directory starts where the directory starts. -/
theorem EndsInName.isAbsolute_join (hd : EndsInName directory) (h : IsName name) :
    (directory.join ⟨name⟩).isAbsolute = directory.isAbsolute := by
  rw [isAbsolute, isAbsolute, hd.bytes_join h]
  cases hbytes : directory.bytes with
  | nil => exact absurd hbytes hd.1
  | cons octet rest => rfl

/-- The parent of a name in a directory is the directory. -/
theorem EndsInName.parent?_join (hd : EndsInName directory) (h : IsName name) :
    (directory.join ⟨name⟩).parent? = some directory := by
  have hparts := parts_append h.slash_free (hd.bytes_join h)
  obtain ⟨-, -, front, last, hlast, hdirectory⟩ := hd
  have hwhole := ofParts_parts directory
  rw [show (Path.mk directory.bytes).parts = front ++ [last] from hdirectory] at hparts
  rw [hdirectory] at hwhole
  cases front with
  | nil =>
    have hne : last.isEmpty = false := by
      cases last with
      | nil => exact absurd hlast (by decide)
      | cons => rfl
    simp only [parent?, hparts, List.nil_append, List.singleton_append]
    rw [show ([name] : List Bytes) = [] ++ [name] from rfl, dropIdleEnd_append h.not_idle]
    simp [dropIdleEnd, hne, ← hwhole]
  | cons first rest =>
    simp only [parent?, hparts, List.cons_append]
    rw [dropIdleEnd_append h.not_idle]
    have hkept : dropIdleEnd (rest ++ [last]) = rest ++ [last] := dropIdleEnd_append hlast
    cases hrest : rest ++ [last] with
    | nil => simp at hrest
    | cons head tail =>
      rw [hrest] at hkept
      rw [List.cons_append, hrest] at hwhole
      simp only [List.cons_append]
      rw [← List.cons_append, List.dropLast_concat, hkept]
      exact congrArg some hwhole

/-- A path with an ASCII name joined to it is UTF-8 exactly if the path is. -/
theorem isSome_text?_join (base : Path) (h : IsName name)
    (hascii : name.all (fun octet => decide (octet < 0x80)) = true) :
    (base.join ⟨name⟩).text?.isSome = base.text?.isSome := by
  replace hascii : ∀ octet ∈ name, octet < 0x80 :=
    fun octet hoctet => of_decide_eq_true (List.all_eq_true.1 hascii octet hoctet)
  rw [join, if_neg (by simp [h.not_absolute])]
  split
  · exact Utf8.isSome_decode?_append base.bytes hascii
  · refine Utf8.isSome_decode?_append base.bytes fun octet hoctet => ?_
    rcases List.mem_cons.1 hoctet with rfl | hname
    · decide
    · exact hascii octet hname

end

end Path

end ThemeSetup
