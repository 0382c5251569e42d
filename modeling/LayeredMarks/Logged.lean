import LayeredMarks.Checked
import LayeredMarks.Diagnostic
import LayeredMarks.Failure

/-!
# Expansions that warn and fail

An expansion reports warnings on its way and may fail.  Warnings that were reported before a failure
stay reported, so a `Logged` result has them beside its outcome.
-/

namespace LayeredMarks

/-- The outcome of an expansion, beside the warnings reported so far. -/
structure Logged (α : Type) where
  warnings : List Diagnostic
  outcome : Except Failure α
deriving Inhabited

namespace Logged

variable {α β γ : Type}

/-- Reads on with the value, if there is one; the warnings of both are kept in order. -/
def andThen (first : Logged α) (next : α → Logged β) : Logged β :=
  match first.outcome with
  | .ok a => ⟨first.warnings ++ (next a).warnings, (next a).outcome⟩
  | .error failure => ⟨first.warnings, .error failure⟩

instance : Monad Logged where
  pure a := ⟨[], .ok a⟩
  bind := andThen

/-- Reports warnings. -/
def warn (warnings : List Diagnostic) : Logged Unit := ⟨warnings, .ok ()⟩

/-- Fails. -/
def fail (failure : Failure) : Logged α := ⟨[], .error failure⟩

/-- Goes on where nothing stands in the way. -/
def pass : (obstacle : Option Failure) → Logged Unit
  | none => pure ()
  | some failure => fail failure

/-- Goes on where there is room for the values of the spec. -/
def require (fits : Bool) : Logged Unit :=
  pass (if fits then none else some (.nestedTooDeep .step))

/-- A reading, as an expansion that reports no warnings. -/
def ofChecked : Checked α → Logged α
  | .ok a => pure a
  | .refused issues => fail (.invalid issues)

/-- The choice of an orientation, as an expansion that reports no warnings. -/
def ofOrientation : Except OrientationFailure α → Logged α
  | .ok a => pure a
  | .error failure => fail (.orientation failure)

/-- The warnings and the outcome, with its value changed by a function. -/
def map (f : α → β) (logged : Logged α) : Logged β := ⟨logged.warnings, logged.outcome.map f⟩

@[simp] theorem warnings_pure (a : α) : (pure a : Logged α).warnings = [] := rfl

@[simp] theorem outcome_pure (a : α) : (pure a : Logged α).outcome = .ok a := rfl

theorem bind_of_pure (a : α) (next : α → Logged β) : pure a >>= next = next a := rfl

theorem bind_of_ok {first : Logged α} {a : α} (h : first.outcome = .ok a) (next : α → Logged β) :
    first >>= next = ⟨first.warnings ++ (next a).warnings, (next a).outcome⟩ := by
  show andThen first next = _
  simp [andThen, h]

theorem bind_of_error {first : Logged α} {failure : Failure} (h : first.outcome = .error failure)
    (next : α → Logged β) : first >>= next = ⟨first.warnings, .error failure⟩ := by
  show andThen first next = _
  simp [andThen, h]

theorem outcome_bind (first : Logged α) (next : α → Logged β) :
    (first >>= next).outcome = first.outcome.bind fun a => (next a).outcome := by
  cases h : first.outcome with
  | ok a => simp [bind_of_ok h, Except.bind]
  | error failure => simp [bind_of_error h, Except.bind]

/-- A sequence reports what its first stage reports, then what the rest reports if there is any. -/
theorem warnings_bind (first : Logged α) (next : α → Logged β) :
    (first >>= next).warnings = first.warnings ++
      match first.outcome with
      | .ok a => (next a).warnings
      | .error _ => [] := by
  cases h : first.outcome with
  | ok a => rw [bind_of_ok h]
  | error failure => rw [bind_of_error h, List.append_nil]

/-- A stage that is followed by silent ones reports all that the sequence reports. -/
theorem warnings_bind_of_silent (first : Logged α) {next : α → Logged β}
    (silent : ∀ a, (next a).warnings = []) : (first >>= next).warnings = first.warnings := by
  rw [warnings_bind]
  cases first.outcome <;> simp [silent]

@[simp] theorem warnings_warn (warnings : List Diagnostic) : (warn warnings).warnings = warnings :=
  rfl

@[simp] theorem warnings_pass (obstacle : Option Failure) : (pass obstacle).warnings = [] := by
  cases obstacle <;> rfl

@[simp] theorem warnings_require (fits : Bool) : (require fits).warnings = [] := warnings_pass _

@[simp] theorem warnings_ofChecked (checked : Checked α) : (ofChecked checked).warnings = [] := by
  cases checked <;> rfl

@[simp] theorem outcome_warn (warnings : List Diagnostic) : (warn warnings).outcome = .ok () := rfl

theorem outcome_pass (obstacle : Option Failure) :
    (pass obstacle).outcome = obstacle.elim (.ok ()) .error := by
  cases obstacle <;> rfl

theorem outcome_require (fits : Bool) :
    (require fits).outcome = if fits then .ok () else .error (.nestedTooDeep .step) := by
  cases fits <;> rfl

@[simp] theorem outcome_ofChecked_ok (a : α) : (ofChecked (.ok a)).outcome = .ok a := rfl

@[simp] theorem outcome_ofChecked_refused (issues : List Issue) :
    (ofChecked (.refused issues : Checked α)).outcome = .error (.invalid issues) := rfl

/-- A sequence of two expansions ends well exactly when both do. -/
theorem outcome_bind_eq_ok {first : Logged α} {next : α → Logged β} {b : β} :
    (first >>= next).outcome = .ok b ↔
      ∃ a, first.outcome = .ok a ∧ (next a).outcome = .ok b := by
  cases h : first.outcome with
  | ok a => simp [bind_of_ok h]
  | error failure => simp [bind_of_error h]

theorem bind_assoc (first : Logged α) (next : α → Logged β) (last : β → Logged γ) :
    first >>= next >>= last = first >>= fun a => next a >>= last := by
  cases h : first.outcome with
  | ok a =>
    rw [bind_of_ok h, bind_of_ok h]
    cases hnext : (next a).outcome with
    | ok b =>
      rw [bind_of_ok rfl, bind_of_ok hnext, List.append_assoc]
    | error failure =>
      rw [bind_of_error rfl, bind_of_error hnext]
  | error failure =>
    rw [bind_of_error h, bind_of_error h, bind_of_error rfl]

theorem map_bind (f : β → γ) (first : Logged α) (next : α → Logged β) :
    (first >>= next).map f = first >>= fun a => (next a).map f := by
  cases h : first.outcome with
  | ok a => simp [bind_of_ok h, map]
  | error failure => simp [bind_of_error h, map, Except.map]

theorem bind_map (f : α → β) (first : Logged α) (next : β → Logged γ) :
    first.map f >>= next = first >>= fun a => next (f a) := by
  cases h : first.outcome with
  | ok a =>
    have hmap : (first.map f).outcome = .ok (f a) := by simp [map, h, Except.map]
    rw [bind_of_ok h, bind_of_ok hmap]
    rfl
  | error failure =>
    have hmap : (first.map f).outcome = .error failure := by simp [map, h, Except.map]
    rw [bind_of_error h, bind_of_error hmap]
    rfl

end Logged

end LayeredMarks
