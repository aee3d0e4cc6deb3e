import ThemeSetup.Proofs.HostRoot
import ThemeSetup.Proofs.Json.Unique
import ThemeSetup.Proofs.Response

/-!
# Responses without fractions

The responses of the tools hold integers and no other numbers (`Response.Whole`): each operation
that makes a response keeps it so, and the response of a failure is so if its cause is one of the
tools' own. The document of such a response can be told from what is printed.
-/

namespace ThemeSetup

/-- The details of a cause of the tools' own hold no fractions. -/
theorem Cause.isWhole_details {cause : Cause} {notice : Notice} {details : Json}
    (hcause : ∀ other, cause ≠ .noticed other) (hnotice : cause.notice? = some notice)
    (h : notice.details = some details) : details.isWhole = true := by
  cases cause with
  | emptyArgument | programNotFound | hostRootEmpty | sourceMissing =>
    cases hnotice
    cases h
    rfl
  | hostRootFailed program code errors =>
    cases hnotice
    cases h
    cases code <;> rfl
  | noticed other => exact absurd rfl (hcause other)
  | plain | io | notText | pathNotText => cases hnotice

/-- The form of a notice holds no fractions if its details hold none. -/
theorem Notice.isWhole_toJson {notice : Notice}
    (h : ∀ details, notice.details = some details → details.isWhole = true) :
    notice.toJson.isWhole = true := by
  unfold Notice.toJson
  cases hdetails : notice.details with
  | none => rfl
  | some details =>
    simp only [Json.isWhole, Json.fieldsAreWhole, List.cons_append, List.nil_append,
      Json.isWhole_sortKeys (h details hdetails), Bool.and_self]

/-- The report of a failure with a cause of the tools' own holds no fractions. -/
theorem Failure.isWhole_report {failure : Failure} (h : failure.Unnoticed) :
    failure.report.toJson.isWhole = true := by
  refine Notice.isWhole_toJson fun details hdetails => ?_
  unfold Failure.report at hdetails
  cases hnotice : failure.cause.notice? with
  | none =>
    rw [hnotice] at hdetails
    cases hdetails
  | some notice =>
    rw [hnotice] at hdetails
    exact Cause.isWhole_details h hnotice hdetails

namespace Response

/-- The form of a response has the form of its data. -/
theorem toJson?_eq_some {response : Response} {form : Json} :
    response.toJson? = some form ↔
      ∃ data, response.data = some data ∧ form = .object
        [("ok", .bool response.ok), ("command", .string response.command),
         ("version", .string response.version), ("exit_code", .int response.exitCode.toNat),
         ("data", data), ("warnings", Json.strings response.warnings),
         ("errors", .array (response.errors.map Notice.toJson))] := by
  unfold toJson?
  cases response.data with
  | none => simp
  | some data => simp [eq_comm]

/-- The data and the errors of a response hold no fractions. -/
structure Whole (response : Response) : Prop where
  data : ∀ data, response.data = some data → data.isWhole = true
  errors : ∀ notice ∈ response.errors, notice.toJson.isWhole = true

/-- The error of a child holds no fractions. -/
theorem isWhole_childError (tool : String) (code : UInt8) :
    (childError tool code).toJson.isWhole = true := by
  rw [toJson_childError]
  rfl

/-- Texts hold no numbers. -/
theorem isWhole_strings (texts : List String) : (Json.strings texts).isWhole = true := by
  rw [Json.strings, Json.isWhole, Json.areWhole_iff, List.forall_mem_map]
  exact fun _ _ => rfl

variable {response : Response}

/-- The form of a response without fractions holds none. -/
theorem Whole.isWhole (h : response.Whole) {form : Json} (hform : response.toJson? = some form) :
    form.isWhole = true := by
  obtain ⟨data, hdata, rfl⟩ := toJson?_eq_some.1 hform
  have herrors : Json.areWhole (response.errors.map Notice.toJson) = true := by
    rw [Json.areWhole_iff, List.forall_mem_map]
    exact h.errors
  simp only [Json.isWhole, Json.fieldsAreWhole, Json.int, isWhole_strings, h.data data hdata,
    herrors, Bool.and_self]

/-- A success holds no fractions if its data hold none. -/
theorem Whole.success (command : String) {data : Option Json}
    (h : ∀ value, data = some value → value.isWhole = true) :
    (Response.success command data).Whole :=
  ⟨h, nofun⟩

/-- Other warnings bring no fractions. -/
theorem Whole.withWarnings (h : response.Whole) (warnings : List String) :
    (response.withWarnings warnings).Whole :=
  ⟨h.data, h.errors⟩

/-- A child that ended brings no fractions. -/
theorem Whole.withChild (h : response.Whole) (tool : String) (code : UInt8) :
    (response.withChild tool code).Whole := by
  unfold Response.withChild
  split
  · exact ⟨h.data, h.errors⟩
  · refine ⟨h.data, fun notice hmem => ?_⟩
    rcases List.mem_append.1 hmem with hold | hnew
    · exact h.errors notice hold
    · rw [List.mem_singleton.1 hnew]
      exact isWhole_childError tool code

/-- The response of a failure with a cause of the tools' own holds no fractions. -/
theorem Whole.ofFailure (command : String) {failure : Failure} (h : failure.Unnoticed) :
    (Response.ofFailure command failure).Whole where
  data := by
    rintro _ ⟨⟩
    rfl
  errors notice hmem := by
    rw [List.mem_singleton.1 hmem]
    exact Failure.isWhole_report h

end Response

end ThemeSetup
