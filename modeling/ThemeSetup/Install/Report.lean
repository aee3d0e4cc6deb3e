import ThemeSetup.Install.Item

/-!
# The report of an installation

`Delivery.toJson?` and `Report.toJson?` give the JSON forms. They exist exactly if every path is
UTF-8.
-/

namespace ThemeSetup.Install

/-- A path as a JSON text, if it is UTF-8. -/
def pathJson? (path : Path) : Option Json :=
  path.text?.map .string

/-- The fields of a status. -/
def Status.fields : Status → List (String × Json)
  | .copied size => [("status", .string "copied"), ("bytes", .int size)]
  | .planned => [("status", .string "planned")]
  | .failed error => [("status", .string "failed"), ("error", .string error)]

/-- A delivery as a JSON value. -/
def Delivery.toJson? (delivery : Delivery) : Option Json := do
  let source ← pathJson? delivery.source
  let target ← pathJson? delivery.target
  return .object <|
    [("item", .string delivery.item.name), ("from", source), ("to", target)] ++
      delivery.status.fields

/-- A layout as a JSON value. -/
def Layout.toJson? (layout : Layout) : Option Json := do
  let root ← pathJson? layout.root
  let theme ← pathJson? layout.themeDirectory
  let extra ← pathJson? layout.extraDirectory
  return .object [("root", root), ("theme_dir", theme), ("extra_dir", extra)]

/-- What an installation did, or would do. -/
structure Report where
  platform : Platform
  dryRun : Bool
  layout : Layout
  deliveries : List Delivery
  /-- The warnings, which are reported beside the rest. -/
  warnings : List String
  deriving DecidableEq, Repr

/-- A report as a JSON value, without its warnings. -/
def Report.toJson? (report : Report) : Option Json := do
  let layout ← report.layout.toJson?
  let deliveries ← report.deliveries.mapM Delivery.toJson?
  return .object
    [("platform", .string report.platform.name), ("dry_run", .bool report.dryRun),
     ("layout", layout), ("copies", .array deliveries)]

end ThemeSetup.Install
