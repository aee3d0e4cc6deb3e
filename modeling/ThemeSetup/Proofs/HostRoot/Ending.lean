import ThemeSetup.Proofs.Package
import ThemeSetup.Proofs.Text.Written

/-!
# Helpers that end with an error

A helper that was started and did not end well names no root, whatever it wrote. That it failed,
with its exit code and what it wrote to its standard error, is reported exactly if what it wrote to
its standard output is UTF-8 (`HostRoot.reportsEnding_iff`): the output is read before anybody looks
at the ending, and the failure to read it is all that is reported then (`HostRoot.ask_notText`). So
the ending of a helper that failed may stay unknown (`HostRoot.not_reportsEnding`).
-/

namespace ThemeSetup

/-! ## Texts without their ends -/

namespace Text

/-- A text is another one without the characters of a class at its end: nothing else is lost, and
none of them is left there. -/
def IsTrimmed (p : Char → Bool) (kept text : List Char) : Prop :=
  ∃ lost, text = kept ++ lost ∧ (∀ c ∈ lost, p c = true) ∧ ∀ c ∈ kept.getLast?, p c = false

/-- Trimming the end of a text leaves it without the characters of the class there. -/
theorem isTrimmed_trimEnd (p : Char → Bool) (text : List Char) :
    IsTrimmed p (trimEnd p text) text := by
  refine ⟨_, (trimEnd_append_takeWhile p text).symm, fun c hc => ?_, fun c hc => ?_⟩
  · exact List.all_eq_true.1 List.all_takeWhile c (List.mem_reverse.1 hc)
  · have hne : trimEnd p text ≠ [] := by
      intro h
      rw [h] at hc
      cases hc
    rw [List.getLast?_eq_some_getLast hne] at hc
    cases hc
    exact getLast_trimEnd hne

end Text

/-- The exit code of a program in JSON, or null after a signal. -/
def Ending.toJson : Ending → Json
  | .exited code => .int code.toNat
  | .killed => .null

/-- The JSON value of an ending is made from its exit code. -/
theorem Ending.toJson_eq (ending : Ending) :
    (ending.code?.map Json.int).getD .null = ending.toJson := by
  cases ending <;> rfl

/-- An ending other than the exit code 0 is no success. -/
theorem Ending.isSuccess_eq_false {ending : Ending} (h : ending ≠ .exited 0) :
    ending.isSuccess = false :=
  beq_eq_false_iff_ne.2 h

namespace HostRoot

/-! ## What is reported of an ending -/

/-- A failure reports how the helper ended: its exit code, and what it wrote to its standard error
without the blanks at the end. -/
structure ReportsEnding (program : Path) (reply : Reply) (failure : Failure) : Prop where
  code : failure.report.code = "E_CTPATH_FAILED"
  details : ∃ kept, Text.IsTrimmed Text.isBlank kept (Utf8.lossy reply.errors).toList ∧
    failure.report.details = some (.object
      [("exit_code", reply.ending.toJson), ("program", .string program.display),
       ("stderr", .string (String.ofList kept))])

/-- The failure of a helper that ended with an error reports how it ended. -/
theorem reportsEnding_hostRootFailed (program : Path) (reply : Reply) :
    ReportsEnding program reply
      (.of (.hostRootFailed program reply.ending.code? (Utf8.lossy reply.errors))) where
  code := rfl
  details := ⟨_, Text.isTrimmed_trimEnd _ _, by rw [← Ending.toJson_eq]; rfl⟩

/-- What reports an ending is not the common code. -/
theorem ReportsEnding.code_ne {program : Path} {reply : Reply} {failure : Failure}
    (h : ReportsEnding program reply failure) : failure.report.code ≠ "E_UNEXPECTED" := by
  rw [h.code]
  decide

section
variable {helpers : Path} {platform : Platform} {world : World} {loaded : Loaded}

/-- An output that is no text is all that is reported of a helper, however it ended. -/
theorem ask_notText (hload : world.load (call helpers platform) = .ok loaded)
    {fault : Utf8.Fault}
    (hfault : Utf8.decode (world.reply loaded (call helpers platform)).output = .error fault) :
    ∃ failure, (ask helpers platform world).result = .error failure ∧
      failure.report = ⟨"E_UNEXPECTED", "decode ctpath output: " ++ fault.message, none⟩ := by
  refine ⟨(Failure.of (.notText fault)).within (.text "decode ctpath output"), ?_, rfl⟩
  rw [ask_result, Launch.captured_result, hload]
  dsimp only
  rw [← World.reply, hfault]
  rfl

/-- A helper whose output is text, and which did not end well, fails with its ending. -/
theorem ask_failed (hload : world.load (call helpers platform) = .ok loaded) {output : List Char}
    (houtput : Utf8.decode (world.reply loaded (call helpers platform)).output = .ok output)
    (hending : (world.reply loaded (call helpers platform)).ending ≠ .exited 0) :
    (ask helpers platform world).result =
      .error (.of (.hostRootFailed (call helpers platform).program
        (world.reply loaded (call helpers platform)).ending.code?
        (Utf8.lossy (world.reply loaded (call helpers platform)).errors))) := by
  rw [ask_result, Launch.captured_result, hload]
  dsimp only
  rw [← World.reply, houtput]
  dsimp only [Except.bind]
  rw [answered, if_neg (by simp [Ending.isSuccess_eq_false hending])]

/-- A helper that was started and did not end well names no root. How it ended is reported exactly
if its output is UTF-8; if it is not, that is all that is reported. -/
theorem reportsEnding_iff (hload : world.load (call helpers platform) = .ok loaded)
    (hending : (world.reply loaded (call helpers platform)).ending ≠ .exited 0) :
    ∃ failure, (ask helpers platform world).result = .error failure ∧
      (ReportsEnding (call helpers platform).program
          (world.reply loaded (call helpers platform)) failure ↔
        ∃ text, (world.reply loaded (call helpers platform)).output = Bytes.ofChars text) ∧
      ((¬ ∃ text, (world.reply loaded (call helpers platform)).output = Bytes.ofChars text) →
        failure.report.code = "E_UNEXPECTED" ∧ failure.report.details = none) := by
  cases houtput : Utf8.decode (world.reply loaded (call helpers platform)).output with
  | ok output =>
    have htext : ∃ text, (world.reply loaded (call helpers platform)).output =
        Bytes.ofChars text := ⟨output, Utf8.decode_eq_ok_iff.1 houtput⟩
    exact ⟨_, ask_failed hload houtput hending,
      iff_of_true (reportsEnding_hostRootFailed _ _) htext, fun h => absurd htext h⟩
  | error fault =>
    have hnot : ¬ ∃ text, (world.reply loaded (call helpers platform)).output =
        Bytes.ofChars text := by
      rintro ⟨text, htext⟩
      rw [Utf8.decode_eq_ok_iff.2 htext] at houtput
      cases houtput
    obtain ⟨failure, hresult, hreport⟩ := ask_notText hload houtput
    have hunexpected : failure.report.code = "E_UNEXPECTED" := by rw [hreport]
    exact ⟨failure, hresult, iff_of_false (fun h => h.code_ne hunexpected) hnot,
      fun _ => ⟨hunexpected, by rw [hreport]⟩⟩

end

/-- A world with a helper that writes and ends as it is told, and does nothing else. -/
def toldHelper (output errors : Bytes) (ending : Ending) : World where
  files :=
    { entries :=
        [([], .directory none), ([Bytes.ofString "ct"], .directory none),
         ([Bytes.ofString "ct", Bytes.ofString "ctpath"],
           .file 0o755 (Bytes.ofString "helper"))]
      home := [] }
  programs := fun content =>
    if content = Bytes.ofString "helper" then some (.scripted [] output errors ending) else none

/-- The helper that does as it is told can be started. -/
theorem load_toldHelper (output errors : Bytes) (ending : Ending) :
    (toldHelper output errors ending).load (call (.ofString "ct") .linux) =
      .ok ⟨.scripted [] output errors ending, .ofString "ct/ctpath", []⟩ := rfl

/-- A helper that is killed after it named a root is reported as killed, with what it complained
about. -/
theorem reportsEnding_iff_killed :
    let world := toldHelper (Bytes.ofString "/home/host\n")
      (0xFF :: Bytes.ofString " is no name\n\n") .killed
    ∃ loaded failure, world.load (call (.ofString "ct") .linux) = .ok loaded ∧
      (world.reply loaded (call (.ofString "ct") .linux)).ending ≠ .exited 0 ∧
      (ask (.ofString "ct") .linux world).result = .error failure ∧
      ReportsEnding (.ofString "ct/ctpath")
        (world.reply loaded (call (.ofString "ct") .linux)) failure := by
  intro world
  have hload := load_toldHelper (Bytes.ofString "/home/host\n")
    (0xFF :: Bytes.ofString " is no name\n\n") .killed
  obtain ⟨failure, hresult, hreports, -⟩ := reportsEnding_iff hload nofun
  exact ⟨_, failure, hload, nofun, hresult, hreports.2 ⟨_, rfl⟩⟩

/-- A helper that did not end well need not be reported as such: its output may be no text. -/
theorem not_reportsEnding : ¬ ∀ (helpers : Path) (platform : Platform) (world : World)
    (loaded : Loaded), world.load (call helpers platform) = .ok loaded →
      (world.reply loaded (call helpers platform)).ending ≠ .exited 0 →
      ∃ failure, (ask helpers platform world).result = .error failure ∧
        ReportsEnding (call helpers platform).program
          (world.reply loaded (call helpers platform)) failure := by
  intro h
  have hload := load_toldHelper [0xFF] (Bytes.ofString "no app data\n") (.exited 3)
  obtain ⟨reported, hreported, hreports⟩ := h _ _ _ _ hload (by decide)
  obtain ⟨failure, hfailure, hreport⟩ := ask_notText hload rfl
  obtain rfl : reported = failure := Except.error.inj (hreported.symm.trans hfailure)
  exact hreports.code_ne (by rw [hreport])

end HostRoot

end ThemeSetup
