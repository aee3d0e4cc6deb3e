import ThemeSetup.Failure

/-!
# Which notice a failure reports

The chain of a failure may hold several notices: contexts may be notices, and the cause may have
one. A failure should report the outermost of them (`Failure.ReportsOutermost`). It reports the
notice of the cause, whatever stands around it, and the whole chain under the common code if the
cause has none (`Failure.report_foldl_within`). So the outermost notice is reported exactly if no
context is one, or the outermost that is one says what the cause says anyway
(`Failure.reportsOutermost_iff`); a notice around a plain text is overlooked
(`Failure.not_reportsOutermost`).
-/

namespace ThemeSetup

/-- The notice that a context is, if it is one. -/
def Context.notice? : Context → Option Notice
  | .text _ => none
  | .noticed notice => some notice

/-- The notice that a context is has the wording of the context. -/
theorem Context.message_of_notice? {context : Context} {notice : Notice}
    (h : context.notice? = some notice) : notice.message = context.message := by
  cases context with
  | text message => cases h
  | noticed notice' =>
    cases h
    rfl

namespace Failure

/-- The notices in the chain of a failure, the outermost first. -/
def notices (failure : Failure) : List Notice :=
  failure.contexts.filterMap Context.notice? ++ failure.cause.notice?.toList

/-- What a failure is reported as that has no notice in its chain: the whole chain. -/
def unexpected (failure : Failure) : Notice :=
  ⟨"E_UNEXPECTED", failure.fullMessage, none⟩

/-- A failure reports the outermost notice in its chain, and its whole chain only if there is
none. -/
def ReportsOutermost (failure : Failure) : Prop :=
  failure.report = failure.notices.headD failure.unexpected

/-- Contexts that are put around a failure one after the other end up in front of its own, the last
one outermost. -/
theorem foldl_within (contexts : List Context) (failure : Failure) :
    contexts.foldl within failure = ⟨contexts.reverse ++ failure.contexts, failure.cause⟩ := by
  induction contexts generalizing failure with
  | nil => rfl
  | cons context rest ih => rw [List.foldl_cons, ih, List.reverse_cons, List.append_assoc]; rfl

/-- Contexts around a cause are outside it, so the outermost notice is the last one that was put
around it, and that of the cause if none was. -/
theorem notices_foldl_within (contexts : List Context) (cause : Cause) :
    (contexts.foldl within (.of cause)).notices.head? =
      (contexts.filterMap Context.notice?).getLast?.or cause.notice? := by
  rw [foldl_within, notices, List.head?_append, of, List.append_nil, List.filterMap_reverse,
    List.head?_reverse]
  cases cause.notice? <;> rfl

/-- What is reported of a cause with contexts around it: its notice, or all wordings from the
outside in one line. -/
theorem report_foldl_within (contexts : List Context) (cause : Cause) :
    (contexts.foldl within (.of cause)).report =
      cause.notice?.getD ⟨"E_UNEXPECTED", String.intercalate ": "
        ((contexts.map Context.message).reverse ++ [cause.message]), none⟩ := by
  rw [foldl_within, report, fullMessage, chain, of, List.append_nil, List.map_reverse]

/-- A text that is joined with others is shorter than the whole. -/
theorem length_lt_intercalate (last : String) {text : String} :
    ∀ {texts : List String}, text ∈ texts →
      text.length < (String.intercalate ": " (texts ++ [last])).length
  | first :: rest, h => by
    obtain ⟨next, more, hnext⟩ : ∃ next more, rest ++ [last] = next :: more :=
      List.exists_cons_of_ne_nil (by simp)
    have hjoined : String.intercalate ": " (first :: rest ++ [last]) =
        first ++ ": " ++ String.intercalate ": " (rest ++ [last]) := by
      rw [List.cons_append, hnext, String.intercalate_cons_cons]
    have hseparator : ": ".length = 2 := rfl
    rw [hjoined, String.length_append, String.length_append, hseparator]
    rcases List.mem_cons.1 h with rfl | hrest
    · omega
    · have hshorter := length_lt_intercalate last hrest
      omega

/-- The whole chain is no notice of one of its contexts: it is longer than their wordings. -/
theorem unexpected_ne {failure : Failure} {context : Context} (hmem : context ∈ failure.contexts)
    {notice : Notice} (h : context.notice? = some notice) : failure.unexpected ≠ notice := by
  intro heq
  have hshorter : context.message.length < failure.fullMessage.length :=
    length_lt_intercalate _ (List.mem_map_of_mem hmem)
  rw [← Context.message_of_notice? h, ← heq] at hshorter
  exact Nat.lt_irrefl _ hshorter

/-- A cause with contexts around it reports the outermost notice of the chain exactly if no context
is a notice, or the outermost context that is one is the notice of the cause over again. What it
reports is the notice of the cause, and the whole chain under the common code if the cause has
none. -/
theorem reportsOutermost_iff (contexts : List Context) (cause : Cause) :
    let failure := contexts.foldl within (.of cause)
    (failure.ReportsOutermost ↔
      ∀ notice ∈ (contexts.filterMap Context.notice?).getLast?, cause.notice? = some notice) ∧
    failure.report = cause.notice?.getD ⟨"E_UNEXPECTED", String.intercalate ": "
      ((contexts.map Context.message).reverse ++ [cause.message]), none⟩ := by
  intro failure
  refine ⟨?_, report_foldl_within contexts cause⟩
  have hcontexts : failure.contexts = contexts.reverse := by
    simp only [failure, foldl_within, of, List.append_nil]
  have hreport : failure.report = cause.notice?.getD failure.unexpected := by
    simp only [failure, report, foldl_within, of, unexpected]
  rw [ReportsOutermost, List.headD_eq_head?_getD, notices_foldl_within, hreport]
  cases houtermost : (contexts.filterMap Context.notice?).getLast? with
  | none =>
    refine iff_of_true rfl ?_
    rintro notice ⟨⟩
  | some outermost =>
    rw [Option.some_or, Option.getD_some]
    have houter : outermost ∈ contexts.filterMap Context.notice? := List.mem_of_getLast? houtermost
    obtain ⟨context, hmem, hnotice⟩ := List.mem_filterMap.1 houter
    have hother : failure.unexpected ≠ outermost :=
      unexpected_ne (by rw [hcontexts]; exact List.mem_reverse.2 hmem) hnotice
    cases cause.notice? with
    | none => exact iff_of_false hother fun h => Option.some_ne_none _ (h outermost rfl).symm
    | some inner =>
      constructor
      · rintro rfl notice ⟨⟩
        rfl
      · intro h
        exact Option.some.inj (h outermost rfl)

/-- The outermost notice of a chain need not be reported: a notice around a plain text is
overlooked. -/
theorem not_reportsOutermost : ¬ ∀ (contexts : List Context) (cause : Cause),
    (contexts.foldl within (.of cause)).ReportsOutermost := by
  intro h
  have hcode := congrArg Notice.code (h [.coded "E_THEME" "install theme"] (.plain "disk full"))
  exact absurd (show "E_UNEXPECTED" = "E_THEME" from hcode) (by decide)

end Failure

end ThemeSetup
