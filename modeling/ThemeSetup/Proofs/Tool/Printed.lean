import ThemeSetup.Proofs.Install.Faithful
import ThemeSetup.Proofs.Response.Whole
import ThemeSetup.Tool.Output

/-!
# What a printed response tells

A response about a report is made with three operations (`Built`). Whatever they are, its data are
the report's, and its errors are those of children that ended with an error (`Built.shape`). So it
is printed exactly if every path of the report is UTF-8, and what is printed tells all of it but the
warnings that the report keeps to itself (`printed_faithful`).
-/

namespace ThemeSetup

namespace Response

/-- A child that ended is known from the JSON form of its error. -/
theorem childError_inj {tool other : String} {code otherCode : UInt8}
    (h : (childError tool code).toJson = (childError other otherCode).toJson) :
    (tool, code) = (other, otherCode) := by
  simp only [toJson_childError, Json.object.injEq, List.cons.injEq, Prod.mk.injEq,
    Json.string.injEq, Json.int, Json.number.injEq, Json.Number.int.injEq, Int.natCast_inj,
    true_and, and_true] at h
  obtain ⟨-, hcode, htool⟩ := h
  rw [htool, UInt8.toNat_inj.1 hcode]

/-- The errors of children that ended. -/
def childErrors (children : List (String × UInt8)) : List Notice :=
  children.map fun child => childError child.1 child.2

/-- Errors of children are known from their JSON forms. -/
theorem childErrors_inj {children others : List (String × UInt8)}
    (h : (childErrors children).map Notice.toJson = (childErrors others).map Notice.toJson) :
    childErrors children = childErrors others := by
  have hinj : Function.Injective fun child : String × UInt8 =>
      (childError child.1 child.2).toJson := fun _ _ hchild => childError_inj hchild
  simp only [childErrors, List.map_map] at h
  rw [List.map_injective_iff.2 hinj h]

end Response

namespace Install

/-- The paths that a report holds. -/
def Report.paths (report : Report) : List Path :=
  [report.layout.root, report.layout.themeDirectory, report.layout.extraDirectory] ++
    report.deliveries.flatMap fun delivery => [delivery.source, delivery.target]

/-- The form of a layout exists exactly if all its directories are UTF-8. -/
theorem isSome_toJson?_layout_iff (layout : Layout) :
    layout.toJson?.isSome = true ↔ layout.root.text?.isSome = true ∧
      layout.themeDirectory.text?.isSome = true ∧ layout.extraDirectory.text?.isSome = true := by
  simp only [Layout.toJson?, pathJson?]
  cases layout.root.text? with
  | none => simp
  | some root =>
    cases layout.themeDirectory.text? with
    | none => simp
    | some theme => cases layout.extraDirectory.text? <;> simp

/-- A report can be written exactly if every path in it is UTF-8. -/
theorem isSome_toJson?_iff_paths (report : Report) :
    report.toJson?.isSome = true ↔ ∀ path ∈ report.paths, path.text?.isSome = true := by
  rw [isSome_toJson?_report, Bool.and_eq_true, isSome_toJson?_layout_iff, List.all_eq_true]
  simp only [isSome_toJson?_delivery, Bool.and_eq_true, Report.paths, List.mem_append,
    List.mem_flatMap, List.mem_cons, List.not_mem_nil, or_false]
  constructor
  · rintro ⟨⟨hroot, htheme, hextra⟩, hdeliveries⟩ path
      ((rfl | rfl | rfl) | ⟨delivery, hdelivery, rfl | rfl⟩)
    · exact hroot
    · exact htheme
    · exact hextra
    · exact (hdeliveries delivery hdelivery).1
    · exact (hdeliveries delivery hdelivery).2
  · intro h
    refine ⟨⟨h _ (.inl (.inl rfl)), h _ (.inl (.inr (.inl rfl))), h _ (.inl (.inr (.inr rfl)))⟩,
      fun delivery hdelivery => ?_⟩
    exact ⟨h _ (.inr ⟨delivery, hdelivery, .inl rfl⟩), h _ (.inr ⟨delivery, hdelivery, .inr rfl⟩)⟩

end Install

namespace Tool

/-! ## Responses about a report -/

/-- A response about a report: that of a success, with other warnings, or after children that
ended. -/
inductive Built (report : Install.Report) : Response → Prop
  | success (command : String) : Built report (.success command report.toJson?)
  | withWarnings {response : Response} (warnings : List String) :
      Built report response → Built report (response.withWarnings warnings)
  | withChild {response : Response} (tool : String) (code : UInt8) :
      Built report response → Built report (response.withChild tool code)

/-- What all responses about a report have in common. -/
structure Shape (report : Install.Report) (response : Response) : Prop where
  data : response.data = report.toJson?
  version : response.version = Plugin.toolsVersion
  errors : ∃ children, response.errors = Response.childErrors children

/-- Each operation keeps the data and the version, and adds no error but that of a child. -/
theorem Built.shape {report : Install.Report} {response : Response} (h : Built report response) :
    Shape report response := by
  induction h with
  | success command => exact ⟨rfl, rfl, [], rfl⟩
  | withWarnings warnings _ ih => exact ⟨ih.data, ih.version, ih.errors⟩
  | withChild tool code _ ih =>
    obtain ⟨hdata, hversion, children, herrors⟩ := ih
    unfold Response.withChild
    split
    · exact ⟨hdata, hversion, children, herrors⟩
    · refine ⟨hdata, hversion, children ++ [(tool, code)], ?_⟩
      simp only [herrors, Response.childErrors, List.map_append, List.map_cons, List.map_nil]

/-- Two responses about reports say the same; the reports may differ in the warnings that they
keep. -/
structure SameContent (report another : Install.Report) (response other : Response) : Prop where
  ok : response.ok = other.ok
  command : response.command = other.command
  version : response.version = other.version
  exitCode : response.exitCode = other.exitCode
  warnings : response.warnings = other.warnings
  errors : response.errors = other.errors
  platform : report.platform = another.platform
  dryRun : report.dryRun = another.dryRun
  layout : report.layout = another.layout
  deliveries : report.deliveries = another.deliveries

section
variable {report another : Install.Report} {response other : Response}

/-- A response about a report holds no fractions. -/
theorem Shape.whole (h : Shape report response) : response.Whole where
  data _ hdata := Install.isWhole_toJson?_report (h.data.symm.trans hdata)
  errors notice hmem := by
    obtain ⟨children, herrors⟩ := h.errors
    rw [herrors] at hmem
    obtain ⟨child, -, rfl⟩ := List.mem_map.1 hmem
    exact Response.isWhole_childError child.1 child.2

/-- Two responses about reports have one form exactly if they say the same. -/
theorem Shape.toJson?_eq_iff (h : Shape report response) (h' : Shape another other) {form : Json}
    (hform : response.toJson? = some form) :
    other.toJson? = some form ↔ SameContent report another response other := by
  obtain ⟨data, hdata, rfl⟩ := Response.toJson?_eq_some.1 hform
  obtain ⟨children, herrors⟩ := h.errors
  obtain ⟨others, herrors'⟩ := h'.errors
  rw [h.data] at hdata
  constructor
  · intro hother
    obtain ⟨data', hdata', hfields⟩ := Response.toJson?_eq_some.1 hother
    simp only [Json.object.injEq, List.cons.injEq, Prod.mk.injEq, Json.bool.injEq,
      Json.string.injEq, Json.int, Json.number.injEq, Json.Number.int.injEq, Int.natCast_inj,
      Json.strings, Json.array.injEq, true_and, and_true] at hfields
    obtain ⟨hok, hcommand, hversion, hcode, rfl, hwarnings, hforms⟩ := hfields
    rw [herrors, herrors'] at hforms
    have hstrings : Function.Injective Json.string := fun _ _ htext => Json.string.inj htext
    rw [h'.data] at hdata'
    obtain ⟨hplatform, hdryRun, hlayout, hdeliveries⟩ :=
      (Install.toJson?_report_eq_iff hdata).1 hdata'
    exact {
      ok := hok, command := hcommand, version := hversion
      exitCode := UInt8.toNat_inj.1 hcode
      warnings := List.map_injective_iff.2 hstrings hwarnings
      errors := by rw [herrors, herrors', Response.childErrors_inj hforms]
      platform := hplatform, dryRun := hdryRun, layout := hlayout, deliveries := hdeliveries }
  · intro hsame
    have hdata' := (Install.toJson?_report_eq_iff hdata).2
      ⟨hsame.platform, hsame.dryRun, hsame.layout, hsame.deliveries⟩
    refine Response.toJson?_eq_some.2 ⟨data, h'.data.trans hdata', ?_⟩
    rw [hsame.ok, hsame.command, hsame.version, hsame.exitCode, hsame.warnings, hsame.errors]

end

/-! ## What is printed -/

/-- A response is printed as these octets, in every world, and nothing else is done. -/
def Prints (response : Response) (octets : Bytes) : Prop :=
  ∀ world, printResponse response world = ⟨.ok (), world.files, [.output octets]⟩

/-- A response fails to be printed: nothing is printed, and nothing else is done. -/
def FailsToPrint (response : Response) : Prop :=
  ∃ failure, ∀ world, printResponse response world = ⟨.error failure, world.files, []⟩

/-- A response that has a form is printed as that form. -/
theorem prints_iff {response : Response} {octets : Bytes} :
    Prints response octets ↔
      ∃ form, response.toJson? = some form ∧ octets = Bytes.ofString (form.pretty ++ "\n") := by
  unfold Prints printResponse Response.print
  cases response.toJson? with
  | none =>
    constructor
    · intro h
      cases congrArg Outcome.result (h ⟨⟨[], []⟩, fun _ => none⟩)
    · rintro ⟨form, ⟨⟩, -⟩
  | some form =>
    constructor
    · intro h
      have hsteps := congrArg Outcome.steps (h ⟨⟨[], []⟩, fun _ => none⟩)
      cases hsteps
      exact ⟨form, rfl, rfl⟩
    · rintro ⟨_, ⟨⟩, rfl⟩ world
      rfl

/-- A response that has no form fails to be printed. -/
theorem failsToPrint {response : Response} (h : response.toJson? = none) :
    FailsToPrint response := by
  unfold FailsToPrint printResponse Response.print
  rw [h]
  exact ⟨_, fun _ => rfl⟩

/-- A response about a report is printed exactly if every path in the report is UTF-8, and nothing
is printed otherwise. What is printed tells the whole of it: another such response is printed alike
exactly if it says the same, and only the warnings that the report keeps may differ. -/
theorem printed_faithful {report another : Install.Report} {response other : Response}
    (h : Built report response) (h' : Built another other) :
    ((∃ octets, Prints response octets) ↔ ∀ path ∈ report.paths, path.text?.isSome = true) ∧
      ((¬ ∃ octets, Prints response octets) → FailsToPrint response) ∧
      ∀ octets, Prints response octets →
        (Prints other octets ↔ SameContent report another response other) := by
  have hshape := h.shape
  have hshape' := h'.shape
  have hprinted : (∃ octets, Prints response octets) ↔ response.toJson?.isSome = true := by
    simp only [prints_iff, Option.isSome_iff_exists]
    constructor
    · rintro ⟨_, form, hform, -⟩
      exact ⟨form, hform⟩
    · rintro ⟨form, hform⟩
      exact ⟨_, form, hform, rfl⟩
  refine ⟨?_, fun hfails => ?_, fun octets hprints => ?_⟩
  · rw [hprinted, ← Install.isSome_toJson?_iff_paths, ← hshape.data]
    unfold Response.toJson?
    cases response.data <;> rfl
  · rw [hprinted, Option.not_isSome_iff_eq_none] at hfails
    exact failsToPrint hfails
  · obtain ⟨form, hform, rfl⟩ := prints_iff.1 hprints
    rw [← hshape.toJson?_eq_iff hshape' hform, prints_iff]
    constructor
    · rintro ⟨form', hform', hoctets⟩
      rw [hform', Json.eq_of_printed (hshape.whole.isWhole hform) (hshape'.whole.isWhole hform')
        hoctets]
    · exact fun hform' => ⟨form, hform', rfl⟩

/-- A report with marks of JSON in its texts. -/
def quotedReport (warnings : List String) : Install.Report where
  platform := .linux
  dryRun := false
  layout := .ofRoot (.ofString "host")
  deliveries :=
    [⟨.themeFile, .ofString "local/\"\x7d", .ofString "host/\\\n", .failed "\"status\": \x00é"⟩,
     ⟨.library, .ofString "lib", .ofString "theme", .copied 18446744073709551615⟩]
  warnings := warnings

/-- Responses about a report with a hidden warning and about one without it are printed alike. -/
theorem printed_faithful_hidden :
    let answer (report : Install.Report) : Response :=
      ((Response.success "cttheme-copy" report.toJson?).withWarnings ["\", \"a"]).withChild
        "plpack" 42
    let response := answer (quotedReport ["hidden"])
    let other := answer (quotedReport [])
    Built (quotedReport ["hidden"]) response ∧ Built (quotedReport []) other ∧
      ∃ octets, Prints response octets ∧ Prints other octets := by
  intro answer response other
  have hbuilt (report : Install.Report) : Built report (answer report) :=
    .withChild _ _ (.withWarnings _ (.success _))
  obtain ⟨hpaths, -, hsame⟩ := printed_faithful (hbuilt (quotedReport ["hidden"]))
    (hbuilt (quotedReport []))
  obtain ⟨octets, hprints⟩ := hpaths.2 (by decide)
  refine ⟨hbuilt _, hbuilt _, octets, hprints, (hsame octets hprints).2 ?_⟩
  exact ⟨rfl, rfl, rfl, rfl, rfl, rfl, rfl, rfl, rfl, rfl⟩

end Tool

end ThemeSetup
