import LayeredMarks.Issue

/-!
# Readings that collect issues

A record is read field by field, and the issues of all its fields are listed in field order.  So
`Checked` is applicative: `f <$> a <*> b` is refused with the issues of `a` followed by those of
`b`. Where a later reading needs the earlier value, or must not be tried after a refusal,
`andThen` stops at the first refusal.
-/

namespace LayeredMarks

/-- A value, or the issues for which it is refused. -/
inductive Checked (α : Type) where
  | ok (value : α)
  | refused (issues : List Issue)
deriving Inhabited

namespace Checked

variable {α β γ : Type}

/-- The value changed by a function. -/
def map (f : α → β) : Checked α → Checked β
  | ok a => ok (f a)
  | refused issues => refused issues

/-- The issues, none for a value. -/
def issues : Checked α → List Issue
  | ok _ => []
  | refused issues => issues

/-- The value, if it is not refused. -/
def toOption : Checked α → Option α
  | ok a => some a
  | refused _ => none

/-- Applies a function to a value; the issues of both are listed. -/
def ap : Checked (α → β) → Checked α → Checked β
  | ok f, ok a => ok (f a)
  | ok _, refused issues => refused issues
  | refused issues, other => refused (issues ++ other.issues)

instance : Applicative Checked where
  pure := ok
  map := map
  seq f a := ap f (a ())

/-- Reads on with the value; a refusal ends the reading. -/
def andThen : Checked α → (α → Checked β) → Checked β
  | ok a, f => f a
  | refused issues, _ => refused issues

/-- A refusal with one fault, at the place itself. -/
def fail (fault : Fault) : Checked α := refused [⟨[], fault⟩]

/-- The reading of a value that stands one step deeper. -/
def under (step : PathStep) : Checked α → Checked α
  | ok a => ok a
  | refused issues =>
    refused (issues.map fun issue => { issue with path := step :: issue.path })

/-- A reading that may only be a misfit, among those that list issues. -/
def ofExcept : Except Misfit α → Checked α
  | .ok a => ok a
  | .error m => fail (.misfit m)

/-- Reads the entries of a list one by one; the first that is refused ends the reading. -/
def each (read : α → Checked β) : List α → Checked (List β)
  | [] => ok []
  | a :: rest => (read a).andThen fun b => (each read rest).map (b :: ·)

/-- Works through the entries of a list one by one, each time with what the work before has left;
the first entry that is refused ends the work. -/
def thread {σ : Type} (work : σ → α → Checked (σ × β)) : σ → List α → Checked (σ × List β)
  | left, [] => ok (left, [])
  | left, a :: rest =>
    (work left a).andThen fun (left, b) =>
      (thread work left rest).map fun (left, bs) => (left, b :: bs)

/-- Reads every item, and lists the issues of all of them under their positions from `start` on. -/
def items (read : Json → Checked α) : (start : Nat) → List Json → Checked (List α)
  | _, [] => ok []
  | start, item :: rest =>
    List.cons <$> (read item).under (.index start) <*> items read (start + 1) rest

@[simp] theorem toOption_ok (a : α) : (ok a).toOption = some a := rfl

@[simp] theorem toOption_refused (issues : List Issue) :
    (refused issues : Checked α).toOption = none := rfl

@[simp] theorem andThen_ok (a : α) (f : α → Checked β) : (ok a).andThen f = f a := rfl

@[simp] theorem toOption_under (step : PathStep) (a : Checked α) :
    (a.under step).toOption = a.toOption := by
  cases a <;> rfl

theorem map_eq_ok {f : α → β} {a : Checked α} {b : β} :
    a.map f = ok b ↔ ∃ x, a = ok x ∧ f x = b := by
  cases a <;> simp [map]

theorem fmap_eq_ok {f : α → β} {a : Checked α} {b : β} : f <$> a = ok b ↔ ∃ x, a = ok x ∧ f x = b :=
  map_eq_ok

theorem seq_eq_ok {f : Checked (α → β)} {a : Checked α} {b : β} :
    f <*> a = ok b ↔ ∃ g, f = ok g ∧ ∃ x, a = ok x ∧ g x = b := by
  cases f <;> cases a <;> simp [Seq.seq, ap]

theorem andThen_eq_ok {a : Checked α} {f : α → Checked β} {b : β} :
    a.andThen f = ok b ↔ ∃ x, a = ok x ∧ f x = ok b := by
  cases a <;> simp [andThen]

@[simp] theorem under_eq_ok {step : PathStep} {a : Checked α} {b : α} :
    a.under step = ok b ↔ a = ok b := by
  cases a <;> simp [under]

theorem ofExcept_eq_ok {result : Except Misfit α} {a : α} :
    ofExcept result = ok a ↔ result = .ok a := by
  cases result <;> simp [ofExcept, fail]

/-- What is read entry by entry is, in order, what each entry is read as. -/
theorem each_eq_ok {read : α → Checked β} {as : List α} {bs : List β} :
    each read as = ok bs ↔ as.map read = bs.map ok := by
  induction as generalizing bs with
  | nil => cases bs <;> simp [each]
  | cons a rest ih => cases bs <;> simp [each, andThen_eq_ok, map_eq_ok, ih]

/-- Entries that are left out before the reading are left out of what is read. -/
theorem each_filter {read : α → Checked β} {p : α → Bool} {q : β → Bool}
    (same : ∀ a b, read a = ok b → p a = q b) {as : List α} {bs : List β}
    (h : each read as = ok bs) : each read (as.filter p) = ok (bs.filter q) := by
  induction as generalizing bs with
  | nil =>
    obtain rfl : [] = bs := ok.inj h
    rfl
  | cons a rest ih =>
    obtain ⟨b, hb, htail⟩ := andThen_eq_ok.mp h
    obtain ⟨tail, hrest, rfl⟩ := map_eq_ok.mp htail
    have hkept := ih hrest
    have hsame := same a b hb
    cases hq : q b with
    | false => simp [hsame, hq, hkept]
    | true => simp [hsame, hq, each, hb, hkept, map]

/-- What an entry and its reading have in common, the lists have in common. -/
theorem each_map {read : α → Checked β} {f : α → γ} {g : β → γ}
    (same : ∀ a b, read a = ok b → f a = g b) {as : List α} {bs : List β}
    (h : each read as = ok bs) : as.map f = bs.map g := by
  induction as generalizing bs with
  | nil =>
    obtain rfl : [] = bs := ok.inj h
    rfl
  | cons a rest ih =>
    obtain ⟨b, hb, htail⟩ := andThen_eq_ok.mp h
    obtain ⟨tail, hrest, rfl⟩ := map_eq_ok.mp htail
    rw [List.map_cons, List.map_cons, same a b hb, ih hrest]

/-- Entries that are all read are read in any other order as well. -/
theorem each_perm {read : α → Checked β} {as others : List α} (perm : as.Perm others)
    {bs : List β} (h : each read as = ok bs) :
    ∃ cs, each read others = ok cs ∧ bs.Perm cs := by
  induction perm generalizing bs with
  | nil => exact ⟨bs, h, .refl bs⟩
  | cons a _ ih =>
    obtain ⟨b, hb, htail⟩ := andThen_eq_ok.mp h
    obtain ⟨tail, hrest, rfl⟩ := map_eq_ok.mp htail
    obtain ⟨cs, hcs, hperm⟩ := ih hrest
    exact ⟨b :: cs, by simp [each, hb, hcs, map], hperm.cons b⟩
  | swap a a' rest =>
    obtain ⟨b', hb', htail'⟩ := andThen_eq_ok.mp h
    obtain ⟨tail', hnext, rfl⟩ := map_eq_ok.mp htail'
    obtain ⟨b, hb, htail⟩ := andThen_eq_ok.mp hnext
    obtain ⟨tail, hrest, rfl⟩ := map_eq_ok.mp htail
    exact ⟨b :: b' :: tail, by simp [each, hb, hb', hrest, map], .swap b b' tail⟩
  | trans _ _ ih₁ ih₂ =>
    obtain ⟨cs, hcs, hperm⟩ := ih₁ h
    obtain ⟨ds, hds, hperm'⟩ := ih₂ hcs
    exact ⟨ds, hds, hperm.trans hperm'⟩

/-- What is wrong with a value that stands one step deeper is told with that step. -/
theorem issues_under (step : PathStep) (a : Checked α) :
    (a.under step).issues =
      a.issues.map fun issue => { issue with path := step :: issue.path } := by
  cases a <;> rfl

theorem issues_seq (f : Checked (α → β)) (a : Checked α) :
    (f <*> a).issues = f.issues ++ a.issues := by
  cases f <;> cases a <;> simp [Seq.seq, ap, issues]

end Checked

end LayeredMarks
