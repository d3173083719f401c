import FrameFlow.Diagnosis.Plan

/-! What the stages of an examination report together: the defects of each stage after those of the
stages before it, up to the first fatal one. -/
namespace FrameFlow

variable {σ : Type}

theorem verdict_eq_ok_iff {defects : List Defect} {warnings ws : List Warning} :
    verdict defects warnings = .ok ws ↔ defects = [] ∧ warnings = ws := by
  cases defects <;> simp [verdict]

theorem verdict_ne_error_nil {defects : List Defect} {warnings : List Warning} :
    verdict defects warnings ≠ .error [] := by
  cases defects <;> simp [verdict]

section UpToFatal

variable {defects more : List Defect} {d : Defect}

theorem upToFatal_of_not_fatal (mild : ∀ d ∈ defects, d.isFatal = false) :
    upToFatal defects = (defects, false) := by
  induction defects with
  | nil => rfl
  | cons d rest ih =>
    rw [upToFatal, ih fun e there => mild e (List.mem_cons_of_mem d there)]
    simp [mild d List.mem_cons_self]

theorem upToFatal_cons_of_fatal (fatal : d.isFatal) : upToFatal (d :: more) = ([d], true) := by
  simp [upToFatal, fatal]

theorem upToFatal_eq_nil_iff : (upToFatal defects).1 = [] ↔ defects = [] := by
  cases defects with
  | nil => simp [upToFatal]
  | cons d rest =>
    unfold upToFatal
    split <;> simp

/-- No defect but the last is fatal. -/
def FatalLast (defects : List Defect) : Prop := ∀ d ∈ defects.dropLast, d.isFatal = false

theorem fatalLast_singleton (d : Defect) : FatalLast [d] := by simp [FatalLast]

theorem FatalLast.append (mild : ∀ d ∈ defects, d.isFatal = false) (last : FatalLast more) :
    FatalLast (defects ++ more) := by
  intro d there
  by_cases none : more = []
  · rw [none, List.append_nil] at there
    exact mild d (List.dropLast_subset _ there)
  · rw [List.dropLast_append_of_ne_nil none] at there
    rcases List.mem_append.1 there with there | there
    · exact mild d there
    · exact last d there

/-- What is taken ends with a fatal defect, or everything was taken and nothing is fatal. -/
theorem upToFatal_cases (defects : List Defect) :
    ((upToFatal defects).2 = true ∧ FatalLast (upToFatal defects).1) ∨
    ((upToFatal defects).2 = false ∧ ∀ d ∈ (upToFatal defects).1, d.isFatal = false) := by
  induction defects with
  | nil => exact .inr ⟨rfl, by simp [upToFatal]⟩
  | cons d rest ih =>
    by_cases fatal : d.isFatal
    · rw [upToFatal_cons_of_fatal fatal]
      exact .inl ⟨rfl, fatalLast_singleton d⟩
    · have mild : ∀ e ∈ [d], e.isFatal = false := by simp [fatal]
      simp only [upToFatal, fatal, Bool.false_eq_true, if_false]
      refine ih.imp (And.imp_right fun last => last.append mild) (And.imp_right fun rest => ?_)
      exact List.forall_mem_cons.2 ⟨by simpa using fatal, rest⟩

end UpToFatal

/-- The defects that a stage finds. -/
def Stage.found (stage : Stage σ) (g : Graph σ) : List Defect :=
  match stage.examine g with
  | .ok _ => []
  | .error defects => defects

namespace Stage

variable {stage : Stage σ} {g : Graph σ}

theorem found_of_verdict {defects : List Defect} {warnings : List Warning}
    (given : stage.examine g = verdict defects warnings) : stage.found g = defects := by
  cases defects <;> simp [found, given, verdict]

theorem found_eq_nil_iff (real : stage.examine g ≠ .error []) :
    stage.found g = [] ↔ ∃ ws, stage.examine g = .ok ws := by
  unfold found
  cases outcome : stage.examine g with
  | ok ws => simp
  | error defects =>
    simp only [reduceCtorEq, exists_false, iff_false]
    exact fun none => real (outcome.trans (by rw [none]))

end Stage

namespace Graph

variable {g : Graph σ}

theorem defects_foldl_addDefect (report : Report) (defects : List Defect) :
    (defects.foldl Report.addDefect report).defects = report.defects ++ defects := by
  induction defects generalizing report with
  | nil => simp
  | cons d rest ih => simp [ih, Report.addDefect]

/-- Defects are only ever added, and those of a stage depend on no other stage. -/
theorem defects_examineFrom (report : Report) (stages : List (Stage σ)) :
    (g.examineFrom report stages).defects = report.defects ++ (g.examine stages).defects := by
  induction stages generalizing report with
  | nil => simp [examine, examineFrom, Report.empty]
  | cons stage rest ih =>
    unfold examine examineFrom
    split
    · simp only [ih (report.addWarnings _), ih (Report.empty.addWarnings _)]
      simp [Report.addWarnings, Report.empty]
    · next defects _ =>
      dsimp only
      split
      · simp [defects_foldl_addDefect, Report.empty]
      · rw [ih ((upToFatal defects).1.foldl Report.addDefect report),
          ih ((upToFatal defects).1.foldl Report.addDefect Report.empty)]
        simp [defects_foldl_addDefect, Report.empty]

theorem defects_examine_cons (stage : Stage σ) (rest : List (Stage σ)) :
    (g.examine (stage :: rest)).defects = (upToFatal (stage.found g)).1 ++
      if (upToFatal (stage.found g)).2 then [] else (g.examine rest).defects := by
  cases outcome : stage.examine g with
  | ok ws =>
    rw [examine, examineFrom, outcome]
    dsimp only
    rw [defects_examineFrom]
    simp [Stage.found, outcome, upToFatal, Report.addWarnings, Report.empty]
  | error defects =>
    simp only [examine, examineFrom, Stage.found, outcome]
    split
    · simp [defects_foldl_addDefect, Report.empty]
    · rw [defects_examineFrom, defects_foldl_addDefect]
      simp [Report.empty, examine]

theorem isValid_examine_iff {stages : List (Stage σ)} :
    (g.examine stages).isValid ↔ ∀ stage ∈ stages, stage.found g = [] := by
  rw [Report.isValid, List.isEmpty_iff]
  induction stages with
  | nil => simp [examine, examineFrom, Report.empty]
  | cons stage rest ih =>
    rw [defects_examine_cons, List.append_eq_nil_iff, upToFatal_eq_nil_iff, List.forall_mem_cons, ← ih]
    refine and_congr_right fun none => ?_
    simp [none, upToFatal]

/-- An examination ends with the first fatal defect. -/
theorem fatalLast_examine (g : Graph σ) (stages : List (Stage σ)) :
    FatalLast (g.examine stages).defects := by
  induction stages with
  | nil => simp [FatalLast, examine, examineFrom, Report.empty]
  | cons stage rest ih =>
    rw [defects_examine_cons]
    obtain ⟨stopped, last⟩ | ⟨passed, mild⟩ := upToFatal_cases (stage.found g)
    · simpa [stopped] using last
    · simpa [passed] using ih.append mild

end Graph
end FrameFlow
