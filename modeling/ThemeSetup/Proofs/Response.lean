import ThemeSetup.Response

/-!
# Responses that tell the truth

A response is true for an exit code if it names this code, says that all is well exactly if the code
is 0, and holds an error exactly if it is not (`Response.Truthful`). All responses of the tools are
made so, and the document of a true response says the same (`Response.Truthful.envelope`).
-/

namespace ThemeSetup

/-- Two fields that are in the order of their keys stay so. -/
theorem Json.sortKeys_pair {first second : String} (horder : ¬ second < first)
    (hkeys : second ≠ first) (value other : Json) :
    (Json.object [(first, value), (second, other)]).sortKeys =
      .object [(first, value.sortKeys), (second, other.sortKeys)] := by
  simp only [sortKeys, sortFields, insertField, if_neg horder, if_neg hkeys]

/-- A document that tells how a command ends that ends with an exit code. -/
structure Envelope (command : String) (code : UInt8) (document : Json) : Prop where
  object : ∃ fields, document = .object fields
  command : document.field? "command" = some (.string command)
  exitCode : document.field? "exit_code" = some (.int code.toNat)
  ok : document.field? "ok" = some (.bool (decide (code = 0)))
  errors : ∃ errors, document.field? "errors" = some (.array errors) ∧
    errors.length = if code = 0 then 0 else 1

namespace Response

/-- The error of a child in its JSON form. -/
theorem toJson_childError (tool : String) (code : UInt8) :
    (childError tool code).toJson = .object
      [("code", .string "E_TOOL_FAILED"),
       ("message", .string (tool ++ " exited with code " ++ toString code.toNat)),
       ("details", .object [("exit_code", .int code.toNat), ("tool", .string tool)])] := by
  simp only [Notice.toJson, childError]
  rw [Json.sortKeys_pair (by decide) (by decide)]
  rfl

/-- A response that is true for a command that ends with an exit code. -/
structure Truthful (response : Response) (command : String) (code : UInt8) : Prop where
  command : response.command = command
  exitCode : response.exitCode = code
  ok : response.ok = decide (code = 0)
  errors : response.errors.length = if code = 0 then 0 else 1

variable (command : String) (data : Option Json)

/-- The response of a success is true for the exit code 0, with warnings or without. -/
theorem truthful_success (warnings : List String) :
    ((success command data).withWarnings warnings).Truthful command 0 :=
  ⟨rfl, rfl, rfl, rfl⟩

/-- The response after a child ended is true for the exit code of the child. -/
theorem truthful_withChild (tool : String) (code : UInt8) :
    ((success command data).withChild tool code).Truthful command code := by
  unfold withChild
  split
  · next h =>
    subst h
    exact ⟨rfl, rfl, rfl, rfl⟩
  · next h => exact ⟨rfl, rfl, (decide_eq_false h).symm, (if_neg h).symm⟩

/-- The response of a failure is true for the exit code 1. -/
theorem truthful_ofFailure (failure : Failure) : (ofFailure command failure).Truthful command 1 :=
  ⟨rfl, rfl, rfl, rfl⟩

/-- The document of a true response is true. -/
theorem Truthful.envelope {response : Response} {command : String} {code : UInt8} {document : Json}
    (h : response.Truthful command code) (hjson : response.toJson? = some document) :
    Envelope command code document := by
  obtain ⟨rfl, rfl, hok, herrors⟩ := h
  cases hdata : response.data with
  | none =>
    rw [toJson?, hdata] at hjson
    cases hjson
  | some data =>
    rw [toJson?, hdata] at hjson
    cases hjson
    refine ⟨⟨_, rfl⟩, rfl, rfl, ?_, _, rfl, ?_⟩
    · rw [← hok]
      rfl
    · rw [List.length_map, herrors]

/-- The document of a failure. -/
def failureDocument (command : String) (failure : Failure) : Json :=
  (ofFailure command failure).toJson?.getD .null

/-- A failure can always be written. -/
theorem toJson?_ofFailure (failure : Failure) :
    (ofFailure command failure).toJson? = some (failureDocument command failure) :=
  rfl

end Response

end ThemeSetup
