import ThemeSetup.Json.Basic
import ThemeSetup.Platform
import ThemeSetup.Plugin

/-!
# What an installation copies, and to where

An installation copies two items, the theme file and the built library, from the directories of a
`Request` to the places that the host's root determines (`Layout`). A `Delivery` records what became
of an item.
-/

namespace ThemeSetup.Install

/-- The directories that an installation starts from. -/
structure Request where
  /-- The directory of the helper that names the host's root. -/
  helpers : Path
  /-- The directory of the theme file. -/
  sources : Path
  /-- The directory of the built library. -/
  libraries : Path
  deriving DecidableEq, Repr

/-- The directories of the host that an installation writes to. -/
structure Layout where
  root : Path
  themeDirectory : Path
  extraDirectory : Path
  deriving DecidableEq, Repr

/-- The directories below a root. -/
def Layout.ofRoot (root : Path) : Layout where
  root := root
  themeDirectory := root.join (.ofString "theme")
  extraDirectory :=
    ((root.join (.ofString "Plugins")).join (.ofString "extra")).join (.ofString Plugin.uuid)

/-- Something that an installation copies. -/
inductive Item where
  | themeFile
  | library
  deriving DecidableEq, Repr

namespace Item

/-- The items in the order in which they are copied. -/
def all : List Item :=
  [.themeFile, .library]

/-- The name of an item in reports. -/
def name : Item → String
  | .themeFile => "theme_file"
  | .library => "library"

/-- Where an item is copied from. -/
def source (item : Item) (request : Request) (platform : Platform) : Path :=
  match item with
  | .themeFile => request.sources.join (.ofString Plugin.themeFileName)
  | .library => request.libraries.join (.ofString platform.libraryName)

/-- Where an item is copied to. -/
def target (item : Item) (layout : Layout) (platform : Platform) : Path :=
  match item with
  | .themeFile => layout.extraDirectory.join (.ofString Plugin.themeFileName)
  | .library => layout.themeDirectory.join (.ofString platform.libraryName)

/-- What an item is called when it is missing. -/
def missingLabel : Item → String
  | .themeFile => "Local theme file"
  | .library => "Library file"

/-- What is said of an item that was copied. -/
def copiedMessage : Item → String
  | .themeFile => "Theme file copied"
  | .library => "Library theme file copied"

/-- What is said of an item that would be copied. -/
def plannedMessage : Item → String
  | .themeFile => "Would copy the theme file"
  | .library => "Would copy the library file"

/-- What is said of an item that could not be copied. -/
def failedMessage : Item → String
  | .themeFile => "Unable to copy the theme file"
  | .library => "Unable to copy the library file"

end Item

/-- What became of an item. -/
inductive Status where
  /-- It was copied, with a number of octets. -/
  | copied (size : Nat)
  /-- It would be copied. -/
  | planned
  /-- It could not be copied. -/
  | failed (error : String)
  deriving DecidableEq, Repr

/-- An item, its way and what became of it. -/
structure Delivery where
  item : Item
  source : Path
  target : Path
  status : Status
  deriving DecidableEq, Repr

namespace Delivery

/-- What is said of a delivery to a reader. -/
def message (delivery : Delivery) : String :=
  match delivery.status with
  | .copied _ => delivery.item.copiedMessage
  | .planned =>
    delivery.item.plannedMessage ++ " (" ++ delivery.source.display ++ " -> " ++
      delivery.target.display ++ ")"
  | .failed _ => delivery.item.failedMessage

/-- The warning about a delivery that failed. -/
def warning? (delivery : Delivery) : Option String :=
  match delivery.status with
  | .failed error => some (delivery.item.failedMessage ++ ": " ++ error)
  | .copied _ | .planned => none

end Delivery

end ThemeSetup.Install
