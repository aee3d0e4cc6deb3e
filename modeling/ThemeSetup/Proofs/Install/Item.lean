import ThemeSetup.Proofs.Path

/-!
# The paths of items

Both items are copied from a directory of the request to a directory of the layout, under a name
that is the same on both sides (`Item.source_eq`, `Item.target_eq`). The directories of a layout
end in names of their own, so the parent of a target is the directory that was made for it
(`Item.parent?_target`). All names are ASCII: a source is UTF-8 exactly if its directory is, and a
target exactly if the root is.
-/

namespace ThemeSetup.Install

namespace Item

/-- The name of an item's file. -/
def fileName (item : Item) (platform : Platform) : Bytes :=
  match item with
  | .themeFile => .ofString Plugin.themeFileName
  | .library => .ofString platform.libraryName

/-- The directory that an item is copied from. -/
def sourceDirectory (item : Item) (request : Request) : Path :=
  match item with
  | .themeFile => request.sources
  | .library => request.libraries

/-- The directory that an item is copied to. -/
def directory (item : Item) (layout : Layout) : Path :=
  match item with
  | .themeFile => layout.extraDirectory
  | .library => layout.themeDirectory

variable (item : Item) (request : Request) (layout : Layout) (platform : Platform) (root : Path)

/-- An item is copied from its name in its source directory. -/
theorem source_eq : item.source request platform =
    (item.sourceDirectory request).join ⟨item.fileName platform⟩ := by
  cases item <;> rfl

/-- An item is copied to its name in its directory. -/
theorem target_eq : item.target layout platform =
    (item.directory layout).join ⟨item.fileName platform⟩ := by
  cases item <;> rfl

/-- The name of an item's file names an entry. -/
theorem fileName_isName : Path.IsName (item.fileName platform) := by
  cases item <;> cases platform <;> decide

/-- The name of an item's file is ASCII. -/
theorem fileName_ascii :
    (item.fileName platform).all (fun octet => decide (octet < 0x80)) = true := by
  cases item <;> cases platform <;> rfl

/-- The two items have different names. -/
theorem fileName_ne : Item.themeFile.fileName platform ≠ Item.library.fileName platform := by
  cases platform <;> decide

/-- A directory of a layout ends in a name. -/
theorem directory_endsInName : Path.EndsInName (item.directory (.ofRoot root)) := by
  cases item with
  | themeFile => exact .join (show Path.IsName (Bytes.ofString Plugin.uuid) by decide)
  | library => exact .join (show Path.IsName (Bytes.ofString "theme") by decide)

/-- The parent of an item's target is the directory it is copied to. -/
theorem parent?_target : (item.target (.ofRoot root) platform).parent? =
    some (item.directory (.ofRoot root)) := by
  rw [target_eq]
  exact (directory_endsInName item root).parent?_join (fileName_isName item platform)

/-- The source of an item is UTF-8 exactly if its directory is. -/
theorem isSome_text?_source :
    (item.source request platform).text?.isSome = (item.sourceDirectory request).text?.isSome := by
  rw [source_eq]
  exact Path.isSome_text?_join _ (fileName_isName item platform) (fileName_ascii item platform)

/-- The directories of a layout are UTF-8 exactly if its root is. -/
theorem isSome_text?_directory :
    (item.directory (.ofRoot root)).text?.isSome = root.text?.isSome := by
  cases item with
  | themeFile =>
    have hplugins := Path.isSome_text?_join root
      (show Path.IsName (Bytes.ofString "Plugins") by decide) rfl
    have hextra := Path.isSome_text?_join (root.join (.ofString "Plugins"))
      (show Path.IsName (Bytes.ofString "extra") by decide) rfl
    have huuid := Path.isSome_text?_join
      ((root.join (.ofString "Plugins")).join (.ofString "extra"))
      (show Path.IsName (Bytes.ofString Plugin.uuid) by decide) rfl
    exact huuid.trans (hextra.trans hplugins)
  | library =>
    exact Path.isSome_text?_join root (show Path.IsName (Bytes.ofString "theme") by decide) rfl

/-- The target of an item is UTF-8 exactly if the root is. -/
theorem isSome_text?_target :
    (item.target (.ofRoot root) platform).text?.isSome = root.text?.isSome := by
  rw [target_eq, Path.isSome_text?_join _ (fileName_isName item platform)
    (fileName_ascii item platform), isSome_text?_directory]

end Item

end ThemeSetup.Install
