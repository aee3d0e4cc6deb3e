import ThemeSetup.Proofs.HostRoot.Ending

/-!
# Which root a helper names

A helper that ends well names a root exactly if its output is UTF-8 and not blank up to the line
endings at its end; the root is what stands before them, octet by octet (`HostRoot.Names`,
`HostRoot.ask_names`). Two classes of characters are at work: line endings are taken away at the end
and nowhere else, and white space decides whether there is a root and is never taken away
(`HostRoot.parse?_eq_some_iff`). Both hold of a root again, so a root that is printed with any line
endings behind it is named again.
-/

namespace ThemeSetup

namespace Text

variable {p : Char → Bool} {kept text : List Char}

/-- A text that does not end in the class loses nothing. -/
theorem trimEnd_eq_self (h : ∀ c ∈ kept.getLast?, p c = false) : trimEnd p kept = kept := by
  rcases List.eq_nil_or_concat kept with rfl | ⟨front, last, rfl⟩
  · rfl
  · have hlast : p last = false := h last (by simp)
    rw [trimEnd, List.concat_eq_append, List.reverse_append, List.reverse_singleton,
      List.singleton_append, List.dropWhile_cons_of_neg (by simp [hlast]), List.reverse_cons,
      List.reverse_reverse]

/-- There is one text that is left when the end is trimmed. -/
theorem IsTrimmed.eq_trimEnd (h : IsTrimmed p kept text) : kept = trimEnd p text := by
  obtain ⟨lost, rfl, hlost, hlast⟩ := h
  rw [trimEnd_append_of_all kept hlost, trimEnd_eq_self hlast]

/-- What is left when the end is trimmed is left when it is trimmed again. -/
theorem IsTrimmed.again (h : IsTrimmed p kept text) : IsTrimmed p kept kept := by
  obtain ⟨-, -, -, hlast⟩ := h
  exact ⟨[], (List.append_nil kept).symm, nofun, hlast⟩

end Text

namespace HostRoot

/-! ## Reading an output -/

variable {output line : List Char}

/-- An output names a path exactly if the path is the output without the line endings at its end,
and not blank. -/
theorem parse?_eq_some_iff : parse? output = some line ↔
    Text.IsTrimmed isLineEnd line output ∧ ∃ c ∈ line, Text.isBlank c = false := by
  rw [parse?]
  constructor
  · intro h
    split at h
    · cases h
    · next hblank =>
      cases h
      refine ⟨Text.isTrimmed_trimEnd _ _, ?_⟩
      simpa using hblank
  · rintro ⟨htrimmed, c, hmem, hc⟩
    rw [← htrimmed.eq_trimEnd]
    refine if_neg fun hblank => ?_
    rw [List.all_eq_true.1 hblank c hmem] at hc
    cases hc

/-- An output names no path if all is blank before the line endings at its end. -/
theorem parse?_eq_none (h : Text.IsTrimmed isLineEnd line output)
    (hblank : ∀ c ∈ line, Text.isBlank c = true) : parse? output = none := by
  rw [parse?, ← h.eq_trimEnd]
  exact if_pos (List.all_eq_true.2 hblank)

/-- A path that an output names is named by itself. -/
theorem parse?_again (h : parse? output = some line) : parse? line = some line := by
  obtain ⟨htrimmed, hroot⟩ := parse?_eq_some_iff.1 h
  exact parse?_eq_some_iff.2 ⟨htrimmed.again, hroot⟩

/-! ## The root of a helper that ended well -/

/-- An output names a root: it is UTF-8, the root is what stands before the line endings at its end,
and that is not blank. -/
def Names (output : Bytes) (root : Path) : Prop :=
  ∃ text line, output = Bytes.ofChars text ∧ Text.IsTrimmed isLineEnd line text ∧
    (∃ c ∈ line, Text.isBlank c = false) ∧ root.bytes = Bytes.ofChars line

/-- A text names a root exactly if a path is read from it that has the octets of the root. -/
theorem names_ofChars_iff {text : List Char} {root : Path} :
    Names (Bytes.ofChars text) root ↔
      ∃ line, parse? text = some line ∧ root = ⟨Bytes.ofChars line⟩ := by
  constructor
  · rintro ⟨text', line, htext, htrimmed, hroot, hbytes⟩
    have heq : text = text' := by
      have hdecoded := Utf8.decode_ofChars text
      rw [htext, Utf8.decode_ofChars] at hdecoded
      exact (Except.ok.inj hdecoded).symm
    subst heq
    refine ⟨line, parse?_eq_some_iff.2 ⟨htrimmed, hroot⟩, ?_⟩
    rw [← hbytes]
  · rintro ⟨line, hline, rfl⟩
    obtain ⟨htrimmed, hroot⟩ := parse?_eq_some_iff.1 hline
    exact ⟨text, line, rfl, htrimmed, hroot, rfl⟩

section
variable {helpers : Path} {platform : Platform} {world : World} {loaded : Loaded}

/-- A helper that ends well, and whose output is text, names what is read from the text. -/
theorem ask_ended (hload : world.load (call helpers platform) = .ok loaded)
    (hending : (world.reply loaded (call helpers platform)).ending = .exited 0) {text : List Char}
    (htext : (world.reply loaded (call helpers platform)).output = Bytes.ofChars text) :
    (ask helpers platform world).result =
      match parse? text with
      | none => .error (.of (.hostRootEmpty (call helpers platform).program))
      | some line => .ok ⟨Bytes.ofChars line⟩ := by
  rw [ask_result, Launch.captured_result, hload]
  dsimp only
  rw [← World.reply, htext, Utf8.decode_ofChars, hending]
  rfl

/-- A helper that ends well names a root exactly if its output names it. -/
theorem ask_eq_ok_iff (hload : world.load (call helpers platform) = .ok loaded)
    (hending : (world.reply loaded (call helpers platform)).ending = .exited 0) (root : Path) :
    (ask helpers platform world).result = .ok root ↔
      Names (world.reply loaded (call helpers platform)).output root := by
  cases hdecode : Utf8.decode (world.reply loaded (call helpers platform)).output with
  | error fault =>
    obtain ⟨failure, hfailure, -⟩ := ask_notText hload hdecode
    refine iff_of_false (fun h => ?_) ?_
    · cases hfailure.symm.trans h
    · rintro ⟨text, line, htext, -⟩
      rw [Utf8.decode_eq_ok_iff.2 htext] at hdecode
      cases hdecode
  | ok text =>
    have htext := Utf8.decode_eq_ok_iff.1 hdecode
    rw [ask_ended hload hending htext, htext, names_ofChars_iff]
    cases parse? text with
    | none => exact iff_of_false nofun nofun
    | some line => simp [eq_comm]

/-- A helper that ends well, and whose output is blank up to the line endings at its end, is
reported to have named nothing. -/
theorem ask_blank (hload : world.load (call helpers platform) = .ok loaded)
    (hending : (world.reply loaded (call helpers platform)).ending = .exited 0)
    {text line : List Char}
    (htext : (world.reply loaded (call helpers platform)).output = Bytes.ofChars text)
    (htrimmed : Text.IsTrimmed isLineEnd line text) (hblank : ∀ c ∈ line, Text.isBlank c = true) :
    (ask helpers platform world).result =
      .error (.of (.hostRootEmpty (call helpers platform).program)) := by
  rw [ask_ended hload hending htext, parse?_eq_none htrimmed hblank]

/-- A helper that ends well names a root exactly if its output names it. If the output is blank up
to line endings, or no text, it is reported as such. A root that is not blank and does not end in a
line ending is named if it is printed with any line endings behind it, and a root that is named is
read back from its own octets. -/
theorem ask_names (hload : world.load (call helpers platform) = .ok loaded)
    (hending : (world.reply loaded (call helpers platform)).ending = .exited 0) :
    let output := (world.reply loaded (call helpers platform)).output
    let result := (ask helpers platform world).result
    (∀ root, result = .ok root ↔ Names output root) ∧
    (∀ text line, output = Bytes.ofChars text → Text.IsTrimmed isLineEnd line text →
      (∀ c ∈ line, Text.isBlank c = true) →
      ∃ failure, result = .error failure ∧ failure.report.code = "E_CTPATH_EMPTY") ∧
    ((¬ ∃ text, output = Bytes.ofChars text) →
      ∃ failure, result = .error failure ∧ failure.report.code = "E_UNEXPECTED") ∧
    (∀ root ends : List Char, (∃ c ∈ root, Text.isBlank c = false) →
      (∀ c ∈ root.getLast?, isLineEnd c = false) → (∀ c ∈ ends, isLineEnd c = true) →
      output = Bytes.ofChars (root ++ ends) → result = .ok ⟨Bytes.ofChars root⟩) ∧
    ∀ root, result = .ok root →
      ∃ line, root.bytes = Bytes.ofChars line ∧ parse? line = some line := by
  intro output result
  refine ⟨ask_eq_ok_iff hload hending, fun text line htext htrimmed hblank => ?_, fun hnot => ?_,
    fun root ends hroot hlast hends htext => ?_, fun root hresult => ?_⟩
  · exact ⟨_, ask_blank hload hending htext htrimmed hblank, rfl⟩
  · cases hdecode : Utf8.decode output with
    | error fault =>
      obtain ⟨failure, hfailure, hreport⟩ := ask_notText hload hdecode
      exact ⟨failure, hfailure, by rw [hreport]⟩
    | ok text => exact absurd ⟨text, Utf8.decode_eq_ok_iff.1 hdecode⟩ hnot
  · refine (ask_eq_ok_iff hload hending _).2 ?_
    exact ⟨root ++ ends, root, htext, ⟨ends, rfl, hends, hlast⟩, hroot, rfl⟩
  · obtain ⟨text, line, -, htrimmed, hroot, hbytes⟩ :=
      (ask_eq_ok_iff hload hending root).1 hresult
    exact ⟨line, hbytes, parse?_again (parse?_eq_some_iff.2 ⟨htrimmed, hroot⟩)⟩

end

/-- Blanks around a root and a line ending inside it are part of the root. Blanks alone are no root,
and an octet that is no text is a fault. -/
theorem ask_names_blanks :
    let told (output : Bytes) := toldHelper output [] (.exited 0)
    let answer (output : Bytes) := (ask (.ofString "ct") .linux (told output)).result
    let root := "\u3000/a\n b\t".toList
    answer (Bytes.ofChars (root ++ "\r\n\n".toList)) = .ok ⟨Bytes.ofChars root⟩ ∧
    (∃ failure, answer (Bytes.ofChars "\u3000\u0085\r\n".toList) = .error failure ∧
      failure.report.code = "E_CTPATH_EMPTY") ∧
    ∃ failure, answer [0xFF] = .error failure ∧ failure.report.code = "E_UNEXPECTED" := by
  intro told answer root
  have names := fun output => ask_names (load_toldHelper output [] (.exited 0)) rfl
  obtain ⟨-, -, -, hprinted, -⟩ := names (Bytes.ofChars (root ++ "\r\n\n".toList))
  obtain ⟨-, hblank, -⟩ := names (Bytes.ofChars "\u3000\u0085\r\n".toList)
  obtain ⟨-, -, hnotText, -⟩ := names [0xFF]
  have hroot : ∃ c ∈ root, Text.isBlank c = false := ⟨'/', by decide, rfl⟩
  have hlast : ∀ c ∈ root.getLast?, isLineEnd c = false := by
    rintro c ⟨⟩
    rfl
  have hends : ∀ c ∈ "\r\n\n".toList, isLineEnd c = true := List.all_eq_true.1 rfl
  have hline : Text.IsTrimmed isLineEnd "\u3000\u0085".toList "\u3000\u0085\r\n".toList :=
    Text.isTrimmed_trimEnd isLineEnd "\u3000\u0085\r\n".toList
  refine ⟨hprinted root "\r\n\n".toList hroot hlast hends rfl,
    hblank _ "\u3000\u0085".toList rfl hline (List.all_eq_true.1 rfl), hnotText ?_⟩
  rintro ⟨text, htext⟩
  have hdecoded := Utf8.decode_ofChars text
  rw [← htext] at hdecoded
  cases hdecoded

end HostRoot

end ThemeSetup
