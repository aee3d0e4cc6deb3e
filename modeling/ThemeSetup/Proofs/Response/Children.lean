import ThemeSetup.Proofs.Response

/-!
# Responses after several children

A response is of one mind if it says that all is well exactly if its exit code is 0, and exactly if
it has no errors (`Response.Consistent`). A child that ends changes three things in it: a code other
than 0 is added to the errors, and the response is not well from then on, while the exit code is
always replaced (`Response.Tallies.withChild`). So after several children the errors are those of
the children that failed, in order, and the exit code is that of the last one
(`Response.Tallies.withChildren`). The response is of one mind exactly if the last child failed or
none did (`Response.consistent_iff`): a child that ends well after one that failed makes it name the
exit code 0 beside an error (`Response.not_consistent`).
-/

namespace ThemeSetup.Response

/-- The response after children ended, one after the other. -/
def withChildren (response : Response) (children : List (String × UInt8)) : Response :=
  children.foldl (fun response child => response.withChild child.1 child.2) response

/-- The children that ended with a code other than 0. -/
def failed (children : List (String × UInt8)) : List (String × UInt8) :=
  children.filter fun child => child.2 != 0

/-- The code of the last child, and 0 if there was none. -/
def lastCode (children : List (String × UInt8)) : UInt8 :=
  (children.getLast?.map Prod.snd).getD 0

/-- A response says one thing with its mark, its exit code and its errors. -/
structure Consistent (response : Response) : Prop where
  exitCode : response.ok = true ↔ response.exitCode = 0
  errors : response.ok = true ↔ response.errors = []

/-- What a response tells of the children that ended. -/
structure Tallies (children : List (String × UInt8)) (response : Response) : Prop where
  /-- There is one error for each child that failed, in order. -/
  errors : response.errors = (failed children).map fun child =>
    ⟨"E_TOOL_FAILED", child.1 ++ " exited with code " ++ toString child.2.toNat,
      some (.object [("exit_code", .int child.2.toNat), ("tool", .string child.1)])⟩
  /-- All is well if none failed. -/
  ok : response.ok = true ↔ failed children = []
  /-- The exit code is that of the last child, whatever the others were. -/
  exitCode : response.exitCode = lastCode children

section
variable {past children : List (String × UInt8)} {response : Response}

/-- A child that ends is told of after the others. -/
theorem Tallies.withChild (h : Tallies past response) (tool : String) (code : UInt8) :
    Tallies (past ++ [(tool, code)]) (response.withChild tool code) := by
  have hlast : lastCode (past ++ [(tool, code)]) = code := by simp [lastCode]
  by_cases hcode : code = 0
  · have hfailed : failed (past ++ [(tool, code)]) = failed past := by simp [failed, hcode]
    rw [Response.withChild, if_pos hcode]
    refine ⟨?_, ?_, hlast.symm⟩
    · rw [hfailed]
      exact h.errors
    · rw [hfailed]
      exact h.ok
  · have hfailed : failed (past ++ [(tool, code)]) = failed past ++ [(tool, code)] := by
      simp [failed, hcode]
    rw [Response.withChild, if_neg hcode]
    refine ⟨?_, ?_, hlast.symm⟩
    · rw [hfailed, List.map_append, ← h.errors]
      rfl
    · rw [hfailed]
      simp

/-- Children that end are told of after the others, in order. -/
theorem Tallies.withChildren (h : Tallies past response) :
    Tallies (past ++ children) (response.withChildren children) := by
  induction children generalizing past response with
  | nil =>
    rw [List.append_nil]
    exact h
  | cons child rest ih =>
    rw [← List.singleton_append, ← List.append_assoc]
    exact ih (h.withChild child.1 child.2)

/-- The response of a success tells of no child, with other warnings or without. -/
theorem tallies_success (command : String) (data : Option Json)
    (warnings : Option (List String)) :
    Tallies [] (warnings.elim (success command data) (success command data).withWarnings) := by
  cases warnings with
  | none => exact ⟨rfl, iff_of_true rfl rfl, rfl⟩
  | some texts => exact ⟨rfl, iff_of_true rfl rfl, rfl⟩

/-- The last code is that of a child that failed exactly if the last child is one. -/
theorem lastCode_ne_zero :
    lastCode children ≠ 0 ↔ ∃ child ∈ children.getLast?, child.2 ≠ 0 := by
  rw [lastCode]
  cases children.getLast? with
  | none => simp
  | some last => simp

/-- A last child that failed is one that failed. -/
theorem failed_ne_nil (h : lastCode children ≠ 0) : failed children ≠ [] := by
  obtain ⟨child, hlast, hcode⟩ := lastCode_ne_zero.1 h
  have hmem : child ∈ failed children :=
    List.mem_filter.2 ⟨List.mem_of_getLast? hlast, bne_iff_ne.2 hcode⟩
  exact List.ne_nil_of_mem hmem

end

/-- However many children ended, the response of a success has one error for each that failed, in
order, and is well exactly if it has no errors. Its exit code is that of the last child, so it is of
one mind exactly if no child failed, or the last one did. -/
theorem consistent_iff (command : String) (data : Option Json) (warnings : Option (List String))
    (children : List (String × UInt8)) :
    let start := warnings.elim (success command data) (success command data).withWarnings
    let response := start.withChildren children
    Tallies children response ∧ (response.ok = true ↔ response.errors = []) ∧
      (response.Consistent ↔ failed children = [] ∨ ∃ child ∈ children.getLast?, child.2 ≠ 0) := by
  intro start response
  have htally : Tallies children response :=
    (tallies_success command data warnings).withChildren
  have herrors : response.ok = true ↔ response.errors = [] := by
    rw [htally.ok, htally.errors, List.map_eq_nil_iff]
  refine ⟨htally, herrors, ?_⟩
  rw [← lastCode_ne_zero]
  constructor
  · intro hconsistent
    by_cases hlast : lastCode children = 0
    · exact .inl (htally.ok.1 (hconsistent.exitCode.2 (htally.exitCode.trans hlast)))
    · exact .inr hlast
  · rintro (hnone | hlast)
    · have hcode : lastCode children = 0 :=
        Decidable.byContradiction fun hlast => failed_ne_nil hlast hnone
      exact ⟨iff_of_true (htally.ok.2 hnone) (htally.exitCode.trans hcode), herrors⟩
    · have hbad : response.ok ≠ true := fun hok => failed_ne_nil hlast (htally.ok.1 hok)
      exact ⟨iff_of_false hbad (htally.exitCode ▸ hlast), herrors⟩

/-- After a child that failed and one that did not the response is not of one mind: it is not well,
and its exit code is 0. -/
theorem not_consistent : ¬ ∀ (command : String) (data : Option Json)
    (warnings : Option (List String)) (children : List (String × UInt8)),
    ((warnings.elim (success command data) (success command data).withWarnings).withChildren
      children).Consistent := by
  intro h
  have hcode := (h "theme-plpack" (some (.object [])) none [("plpack", 42), ("plpack", 0)]).exitCode
  exact absurd (hcode.2 rfl) (by decide)

end ThemeSetup.Response
