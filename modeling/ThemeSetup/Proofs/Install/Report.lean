import ThemeSetup.Proofs.Install.DryRun

/-!
# Which reports can be written

A report names the root, the directories below it, and the way of each item. The root is text as the
helper printed it, and so is all below it; the sources are as the request has them. So the report of
a run can be written exactly if the two directories of the request are UTF-8
(`isSome_toJson?_of_run`).
-/

namespace ThemeSetup.Install

variable {medium : Medium} {request : Request} {platform : Platform} {dryRun : Bool} {world : World}
  {root : Path} {report : Report}

/-- The report of a run that succeeds has the layout of the root and the way of each item. -/
theorem run_ok_ways (h : (runOn medium request platform dryRun world).result = .ok report) :
    ∃ root, (HostRoot.ask request.helpers platform world).result = .ok root ∧
      report.layout = .ofRoot root ∧
      report.deliveries.map Delivery.way =
        Item.all.map (·.way request platform (.ofRoot root)) := by
  cases dryRun with
  | true =>
    rw [runOn_dry] at h
    obtain ⟨root, hask, -, -, hlayout, hways⟩ := dryRun_ok h
    exact ⟨root, hask, hlayout, hways⟩
  | false =>
    have hcourse := runOn_course medium request platform world
    rw [h] at hcourse
    generalize Step.deliveries (runOn medium request platform false world).steps = told at hcourse
    cases hcourse with
    | complete hopening htheme hdelivered hlibrary hdelivered' =>
      obtain ⟨root, hask, rfl, -⟩ := opening_ok hopening
      refine ⟨root, hask, rfl, ?_⟩
      simp only [reportOf, List.map_cons, List.map_nil, delivered_way hdelivered,
        delivered_way hdelivered', Item.all]

/-- The paths of a layout are UTF-8 exactly if its root is. -/
theorem isSome_toJson?_layout (root : Path) :
    (Layout.ofRoot root).toJson?.isSome = root.text?.isSome := by
  have hextra := Item.isSome_text?_directory .themeFile root
  have htheme := Item.isSome_text?_directory .library root
  simp only [Item.directory] at hextra htheme
  simp only [Layout.toJson?, pathJson?, Layout.ofRoot] at hextra htheme ⊢
  cases hroot : root.text? with
  | none => rfl
  | some text =>
    rw [hroot, Option.isSome_some, Option.isSome_iff_exists] at hextra htheme
    obtain ⟨extra, hextra⟩ := hextra
    obtain ⟨theme, htheme⟩ := htheme
    rw [hextra, htheme]
    rfl

/-- A delivery can be written exactly if its source and its target are UTF-8. -/
theorem isSome_toJson?_delivery (delivery : Delivery) : delivery.toJson?.isSome =
    (delivery.source.text?.isSome && delivery.target.text?.isSome) := by
  simp only [Delivery.toJson?, pathJson?]
  cases delivery.source.text? with
  | none => rfl
  | some source => cases delivery.target.text? <;> rfl

/-- Deliveries can be written together exactly if each of them can. -/
theorem isSome_mapM_toJson? (deliveries : List Delivery) :
    (deliveries.mapM Delivery.toJson?).isSome = deliveries.all (·.toJson?.isSome) := by
  induction deliveries with
  | nil => rfl
  | cons delivery rest ih =>
    rw [List.mapM_cons, List.all_cons, ← ih]
    cases delivery.toJson? with
    | none => rfl
    | some first => cases rest.mapM Delivery.toJson? <;> rfl

/-- A report can be written exactly if its layout and its deliveries can. -/
theorem isSome_toJson?_report (report : Report) : report.toJson?.isSome =
    (report.layout.toJson?.isSome && report.deliveries.all (·.toJson?.isSome)) := by
  rw [Report.toJson?, ← isSome_mapM_toJson?]
  cases report.layout.toJson? with
  | none => rfl
  | some layout => cases report.deliveries.mapM Delivery.toJson? <;> rfl

/-- The report of a run that succeeds can be written exactly if the directories that the items come
from are UTF-8. -/
theorem isSome_toJson?_of_run
    (h : (runOn medium request platform dryRun world).result = .ok report) :
    report.toJson?.isSome =
      (request.sources.text?.isSome && request.libraries.text?.isSome) := by
  obtain ⟨root, hask, hlayout, hways⟩ := run_ok_ways h
  have hroot := HostRoot.isSome_text?_of_ask hask
  have hways : report.deliveries.all (·.toJson?.isSome) =
      (Item.all.map (·.way request platform (.ofRoot root))).all fun way =>
        way.2.1.text?.isSome && way.2.2.text?.isSome := by
    rw [← hways, List.all_map]
    exact congrArg (List.all _) (funext isSome_toJson?_delivery)
  rw [isSome_toJson?_report, hlayout, isSome_toJson?_layout, hroot, hways]
  simp only [Item.all, Item.way, List.map_cons, List.map_nil, List.all_cons, List.all_nil,
    Item.isSome_text?_source, Item.isSome_text?_target, hroot, Item.sourceDirectory,
    Bool.true_and, Bool.and_true]

end ThemeSetup.Install
