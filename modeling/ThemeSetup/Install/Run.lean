import ThemeSetup.HostRoot
import ThemeSetup.Install.Report

/-!
# Installing

`Install.run` asks for the host's root, makes the two directories below it and copies the two
items. An item whose source is missing stops the run. An item that cannot be copied does not: it
becomes a delivery that failed, and a warning. A dry run looks for the sources and writes nothing.

How copies end that were begun is up to the medium. `Install.runOn` installs on any medium, and
`Install.run` on one where no copy is broken off.
-/

namespace ThemeSetup.Install

/-- The part of the program that the log names. -/
def logTarget : String := "cttheme_tools::install"

/-- Makes a directory with the ancestors it lacks. -/
def ensureDirectory (fs : FileSystem) (directory : Path) : Except Failure Unit × FileSystem :=
  match fs.makeDirectories directory with
  | (.ok (), made) => (.ok (), made)
  | (.error error, made) =>
    (.error ((Failure.of (.io error)).within (.text ("create " ++ directory.display))), made)

/-- Copies a file over another on a medium, with the directory it needs, and counts the octets
copied. -/
def replaceFileOn (medium : Medium) (fs : FileSystem) (source target : Path) :
    Except Failure Nat × FileSystem :=
  let ready := match target.parent? with
    | some parent => ensureDirectory fs parent
    | none => (.ok (), fs)
  match ready with
  | (.error failure, made) => (.error failure, made)
  | (.ok (), made) =>
    match made.copyFile medium source target with
    | (.ok size, copied) => (.ok size, copied)
    | (.error error, left) =>
      (.error ((Failure.of (.io error)).within
        (.text ("copy " ++ source.display ++ " -> " ++ target.display))), left)

/-- Copies a file over another, with the directory it needs, and counts the octets copied. -/
def replaceFile (fs : FileSystem) (source target : Path) : Except Failure Nat × FileSystem :=
  replaceFileOn .sound fs source target

/-- Copies an item, and tells what became of it. -/
def copyItem (medium : Medium) (item : Item) (source target : Path) : Job Status := do
  match ← (Job.onFiles fun fs => replaceFileOn medium fs source target).attempt with
  | .ok size =>
    Job.log ⟨.info, logTarget, "copied",
      [("from", .bare source.display), ("to", .bare target.display), ("bytes", .count size)]⟩
    return .copied size
  | .error failure =>
    Job.log ⟨.warn, logTarget, item.failedMessage, [("error", .bare failure.fullMessage)]⟩
    return .failed failure.fullMessage

/-- Delivers an item on a medium, if its source is there. -/
def deliverOn (medium : Medium) (request : Request) (platform : Platform) (dryRun : Bool)
    (layout : Layout) (item : Item) : Job Delivery := do
  let source := item.source request platform
  let target := item.target layout platform
  if !(← Job.askFiles (·.isFile source)) then
    Job.fail (.of (.sourceMissing item.missingLabel source))
  else
    let status ← if dryRun then pure .planned else copyItem medium item source target
    let delivery : Delivery := ⟨item, source, target, status⟩
    Job.step (.deliver delivery)
    return delivery

/-- Delivers an item, if its source is there. -/
def deliver (request : Request) (platform : Platform) (dryRun : Bool) (layout : Layout)
    (item : Item) : Job Delivery :=
  deliverOn .sound request platform dryRun layout item

/-- Makes the directories of a layout. -/
def prepare (layout : Layout) : Job Unit := do
  Job.log ⟨.debug, logTarget, "ensure plugin extra dir",
    [("dir", .bare layout.extraDirectory.display)]⟩
  Job.onFiles (ensureDirectory · layout.extraDirectory)
  Job.log ⟨.debug, logTarget, "ensure theme dir",
    [("dir", .bare layout.themeDirectory.display)]⟩
  Job.onFiles (ensureDirectory · layout.themeDirectory)

/-- Installs the plugin on a medium, or finds out what would be installed. -/
def runOn (medium : Medium) (request : Request) (platform : Platform) (dryRun : Bool) :
    Job Report := do
  let layout := Layout.ofRoot (← HostRoot.ask request.helpers platform)
  if !dryRun then prepare layout
  let theme ← deliverOn medium request platform dryRun layout .themeFile
  let library ← deliverOn medium request platform dryRun layout .library
  let deliveries := [theme, library]
  return ⟨platform, dryRun, layout, deliveries, deliveries.filterMap Delivery.warning?⟩

/-- Installs the plugin, or finds out what would be installed. -/
def run (request : Request) (platform : Platform) (dryRun : Bool) : Job Report :=
  runOn .sound request platform dryRun

end ThemeSetup.Install
