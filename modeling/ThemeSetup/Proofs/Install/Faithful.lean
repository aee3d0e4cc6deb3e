import ThemeSetup.Proofs.Install.Report
import ThemeSetup.Proofs.Json.Unique
import ThemeSetup.Proofs.Text.Written

/-!
# What a written report tells

The JSON forms of paths, deliveries and layouts tell what they are the forms of
(`Json.Faithful`): the status stands beside the other fields of a delivery, but each of its kinds
has a name of its own. So the JSON form of a report tells all of it but the warnings, which are not
in it (`toJson?_report_eq_iff`).
-/

namespace ThemeSetup

/-- Where each of some values gives a result, the first of them gives the first. -/
theorem mapM_cons_eq_some {α β : Type} {f : α → Option β} {a : α} {items : List α}
    {results : List β} : (a :: items).mapM f = some results ↔
      ∃ b rest, f a = some b ∧ items.mapM f = some rest ∧ results = b :: rest := by
  rw [List.mapM_cons]
  cases f a with
  | none => simp
  | some b => cases items.mapM f <;> simp [eq_comm]

/-- A way of writing values in JSON that loses nothing: two values of one form are equal. All
numbers in the forms are integers, so a form can be told from its text. -/
structure Json.Faithful {α : Type} (write : α → Option Json) : Prop where
  whole : ∀ {a form}, write a = some form → form.isWhole = true
  inj : ∀ {a b form}, write a = some form → write b = some form → a = b

section
variable {α : Type} {write : α → Option Json} {items others : List α} {forms : List Json}

/-- The forms of values that are written one after the other are whole. -/
theorem Json.Faithful.areWhole_mapM (h : Json.Faithful write)
    (hforms : items.mapM write = some forms) : Json.areWhole forms = true := by
  induction items generalizing forms with
  | nil =>
    cases hforms
    rfl
  | cons item items ih =>
    obtain ⟨form, rest, hform, hrest, rfl⟩ := mapM_cons_eq_some.1 hforms
    rw [Json.areWhole, h.whole hform, ih hrest, Bool.and_self]

/-- Values that are written one after the other are known from their forms. -/
theorem Json.Faithful.mapM_inj (h : Json.Faithful write) (hitems : items.mapM write = some forms)
    (hothers : others.mapM write = some forms) : items = others := by
  induction items generalizing others forms with
  | nil =>
    cases hitems
    cases others with
    | nil => rfl
    | cons other others =>
      obtain ⟨_, _, -, -, ⟨⟩⟩ := mapM_cons_eq_some.1 hothers
  | cons item items ih =>
    obtain ⟨form, rest, hform, hrest, rfl⟩ := mapM_cons_eq_some.1 hitems
    cases others with
    | nil => cases hothers
    | cons other others =>
      obtain ⟨_, _, hform', hrest', ⟨⟩⟩ := mapM_cons_eq_some.1 hothers
      rw [h.inj hform hform', ih hrest hrest']

end

/-- A platform is known from its name. -/
theorem Platform.name_inj {platform another : Platform} (h : platform.name = another.name) :
    platform = another := by
  have hnamed := named?_name platform
  rw [h, named?_name another, Option.some.injEq] at hnamed
  exact hnamed.symm

namespace Install

/-- The form of a path is its text. -/
theorem pathJson?_eq_some {path : Path} {form : Json} :
    pathJson? path = some form ↔ ∃ text, path.text? = some text ∧ form = .string text := by
  simp only [pathJson?, Option.map_eq_some_iff, @eq_comm _ _ form]

/-- The form of a path tells it. -/
theorem faithful_pathJson? : Json.Faithful pathJson? where
  whole h := by
    obtain ⟨text, -, rfl⟩ := pathJson?_eq_some.1 h
    rfl
  inj {path other form} h h' := by
    obtain ⟨text, htext, rfl⟩ := pathJson?_eq_some.1 h
    obtain ⟨_, htext', ⟨⟩⟩ := pathJson?_eq_some.1 h'
    have hbytes : path.bytes = other.bytes :=
      (Utf8.ofString_of_decode? htext).symm.trans (Utf8.ofString_of_decode? htext')
    cases path
    cases other
    exact congrArg Path.mk hbytes

/-- An item is known from its name. -/
theorem Item.name_inj {item other : Item} (h : item.name = other.name) : item = other := by
  cases item <;> cases other <;> first | rfl | exact absurd h (by decide)

/-- A status is known from its fields: its kinds differ in their names. -/
theorem Status.fields_inj {status other : Status} (h : status.fields = other.fields) :
    status = other := by
  cases status with
  | copied size =>
    cases other with
    | copied size' =>
      simp only [fields, Json.int, List.cons.injEq, Prod.mk.injEq, Json.number.injEq,
        Json.Number.int.injEq, Int.natCast_inj, true_and, and_true] at h
      rw [h]
    | _ => simp [fields] at h
  | planned =>
    cases other with
    | planned => rfl
    | _ => simp [fields] at h
  | failed error =>
    cases other with
    | failed error' =>
      simp only [fields, List.cons.injEq, Prod.mk.injEq, Json.string.injEq, true_and,
        and_true] at h
      rw [h]
    | _ => simp [fields] at h

/-- The fields of a status are whole. -/
theorem Status.fieldsAreWhole_fields (status : Status) :
    Json.fieldsAreWhole status.fields = true := by
  cases status <;> rfl

/-- The form of a delivery has the forms of its paths. -/
theorem Delivery.toJson?_eq_some {delivery : Delivery} {form : Json} :
    delivery.toJson? = some form ↔
      ∃ source target, pathJson? delivery.source = some source ∧
        pathJson? delivery.target = some target ∧
        form = .object ([("item", .string delivery.item.name), ("from", source), ("to", target)] ++
          delivery.status.fields) := by
  unfold Delivery.toJson?
  cases pathJson? delivery.source with
  | none => simp
  | some source => cases pathJson? delivery.target <;> simp [eq_comm]

/-- The form of a delivery tells it. -/
theorem faithful_toJson?_delivery : Json.Faithful Delivery.toJson? where
  whole {delivery form} h := by
    obtain ⟨source, target, hsource, htarget, rfl⟩ := Delivery.toJson?_eq_some.1 h
    simp only [Json.isWhole, List.cons_append, List.nil_append, Json.fieldsAreWhole,
      faithful_pathJson?.whole hsource, faithful_pathJson?.whole htarget,
      Status.fieldsAreWhole_fields, Bool.and_self]
  inj {delivery other form} h h' := by
    obtain ⟨source, target, hsource, htarget, rfl⟩ := Delivery.toJson?_eq_some.1 h
    obtain ⟨source', target', hsource', htarget', hform⟩ := Delivery.toJson?_eq_some.1 h'
    simp only [Json.object.injEq, List.cons_append, List.nil_append, List.cons.injEq,
      Prod.mk.injEq, Json.string.injEq, true_and] at hform
    obtain ⟨hitem, rfl, rfl, hstatus⟩ := hform
    cases delivery
    cases other
    simp only [Delivery.mk.injEq]
    exact ⟨Item.name_inj hitem, faithful_pathJson?.inj hsource hsource',
      faithful_pathJson?.inj htarget htarget', Status.fields_inj hstatus⟩

/-- The form of a layout has the forms of its directories. -/
theorem Layout.toJson?_eq_some {layout : Layout} {form : Json} :
    layout.toJson? = some form ↔
      ∃ root theme extra, pathJson? layout.root = some root ∧
        pathJson? layout.themeDirectory = some theme ∧
        pathJson? layout.extraDirectory = some extra ∧
        form = .object [("root", root), ("theme_dir", theme), ("extra_dir", extra)] := by
  unfold Layout.toJson?
  cases pathJson? layout.root with
  | none => simp
  | some root =>
    cases pathJson? layout.themeDirectory with
    | none => simp
    | some theme => cases pathJson? layout.extraDirectory <;> simp [eq_comm]

/-- The form of a layout tells it. -/
theorem faithful_toJson?_layout : Json.Faithful Layout.toJson? where
  whole {layout form} h := by
    obtain ⟨root, theme, extra, hroot, htheme, hextra, rfl⟩ := Layout.toJson?_eq_some.1 h
    simp only [Json.isWhole, Json.fieldsAreWhole, faithful_pathJson?.whole hroot,
      faithful_pathJson?.whole htheme, faithful_pathJson?.whole hextra, Bool.and_self]
  inj {layout other form} h h' := by
    obtain ⟨root, theme, extra, hroot, htheme, hextra, rfl⟩ := Layout.toJson?_eq_some.1 h
    obtain ⟨_, _, _, hroot', htheme', hextra', ⟨⟩⟩ := Layout.toJson?_eq_some.1 h'
    cases layout
    cases other
    simp only [Layout.mk.injEq]
    exact ⟨faithful_pathJson?.inj hroot hroot', faithful_pathJson?.inj htheme htheme',
      faithful_pathJson?.inj hextra hextra'⟩

/-- The form of a report has the forms of its layout and its deliveries. -/
theorem Report.toJson?_eq_some {report : Report} {form : Json} :
    report.toJson? = some form ↔
      ∃ layout deliveries, report.layout.toJson? = some layout ∧
        report.deliveries.mapM Delivery.toJson? = some deliveries ∧
        form = .object
          [("platform", .string report.platform.name), ("dry_run", .bool report.dryRun),
           ("layout", layout), ("copies", .array deliveries)] := by
  unfold Report.toJson?
  cases report.layout.toJson? with
  | none => simp
  | some layout => cases report.deliveries.mapM Delivery.toJson? <;> simp [eq_comm]

/-- The numbers in the form of a report are integers. -/
theorem isWhole_toJson?_report {report : Report} {form : Json} (h : report.toJson? = some form) :
    form.isWhole = true := by
  obtain ⟨layout, deliveries, hlayout, hdeliveries, rfl⟩ := Report.toJson?_eq_some.1 h
  simp only [Json.isWhole, Json.fieldsAreWhole, faithful_toJson?_layout.whole hlayout,
    faithful_toJson?_delivery.areWhole_mapM hdeliveries, Bool.and_self]

/-- Two reports have one form exactly if they differ in nothing but their warnings. -/
theorem toJson?_report_eq_iff {report other : Report} {form : Json}
    (h : report.toJson? = some form) :
    other.toJson? = some form ↔
      report.platform = other.platform ∧ report.dryRun = other.dryRun ∧
        report.layout = other.layout ∧ report.deliveries = other.deliveries := by
  constructor
  · intro h'
    obtain ⟨layout, deliveries, hlayout, hdeliveries, rfl⟩ := Report.toJson?_eq_some.1 h
    obtain ⟨_, _, hlayout', hdeliveries', hform⟩ := Report.toJson?_eq_some.1 h'
    simp only [Json.object.injEq, List.cons.injEq, Prod.mk.injEq, Json.string.injEq,
      Json.bool.injEq, Json.array.injEq, true_and, and_true] at hform
    obtain ⟨hplatform, hdryRun, rfl, rfl⟩ := hform
    exact ⟨Platform.name_inj hplatform, hdryRun, faithful_toJson?_layout.inj hlayout hlayout',
      faithful_toJson?_delivery.mapM_inj hdeliveries hdeliveries'⟩
  · rintro ⟨hplatform, hdryRun, hlayout, hdeliveries⟩
    rw [← h, Report.toJson?, Report.toJson?, hplatform, hdryRun, hlayout, hdeliveries]

end Install

end ThemeSetup
