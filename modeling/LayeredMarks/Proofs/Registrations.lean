import LayeredMarks.Proofs.Endings

/-!
# Runs of the registry

Expanders are registered and forgotten in any order, and a spec is handed to the expander that its
mark has at that time.  What the registry holds is a list in the order of the names; what it should
hold follows from the history of its changes, in which the expander for error bars is the first that
is registered.  This file relates the two: `applyAll_run`.

## Strategy

* **One change.**  A registry `Reflects` a history if its marks ascend and if it has for each mark
  the expander of the latest change.  `Reflects.apply` carries this over one change.
* **A run.**  `Reflects.applyAll` is the induction over the changes.
* **A spec.**  `expand_eq` cuts an expansion in two: an expander is looked for, and then it is
  called.  `expanderFor_eq_ok` says which one is found, and `expand_of_text` that nothing else is in
  the way of a spec that has been read from a text.
-/

namespace LayeredMarks.Registry

/-! ## Changes -/

/-- A change of the registry. -/
inductive Change where
  /-- An expander is registered for a mark, in place of an earlier one. -/
  | add (mark : String) (expander : Expander)
  /-- The expander of a mark is forgotten, if there is one. -/
  | remove (mark : String)

namespace Change

/-- The mark that a change concerns. -/
def mark : Change → String
  | add mark _ => mark
  | remove mark => mark

/-- The expander that its mark has after a change. -/
def expander? : Change → Option Expander
  | add _ expander => some expander
  | remove _ => none

theorem expander?_eq_some {change : Change} {expander : Expander} :
    change.expander? = some expander ↔ change = .add change.mark expander := by
  cases change <;> simp [expander?, mark]

end Change

/-- The registry after a change. -/
def apply (registry : Registry) : Change → Registry
  | .add mark expander => registry.add mark expander
  | .remove mark => registry.remove mark

/-- The registry after some changes, one after the other. -/
def applyAll (registry : Registry) (changes : List Change) : Registry :=
  changes.foldl apply registry

/-- The latest change of a history that concerns a mark. -/
def latest? (history : List Change) (mark : String) : Option Change :=
  (history.filter fun change => change.mark = mark).getLast?

theorem latest?_concat (history : List Change) (change : Change) (mark : String) :
    latest? (history ++ [change]) mark =
      if change.mark = mark then some change else latest? history mark := by
  unfold latest?
  by_cases h : change.mark = mark <;> simp [h]

/-- The latest change that concerns a mark does so. -/
theorem mark_of_latest? {history : List Change} {mark : String} {change : Change}
    (h : latest? history mark = some change) : change.mark = mark := by
  simpa using (List.mem_filter.mp (List.mem_of_getLast? h)).2

/-! ## Entries -/

section

variable (mark : String) (expander : Expander) (entries : List (String × Expander))

theorem get?_insertEntry (name : String) :
    Fields.get? (insertEntry mark expander entries) name =
      if name = mark then some expander else Fields.get? entries name := by
  induction entries with
  | nil => rfl
  | cons entry rest ih =>
      obtain ⟨first, own⟩ := entry
      unfold insertEntry
      by_cases hbefore : mark < first
      · rw [if_pos hbefore, Fields.get?_cons]
      · rw [if_neg hbefore]
        by_cases hsame : mark = first
        · subst hsame
          rw [if_pos rfl, Fields.get?_cons, Fields.get?_cons]
          split_ifs <;> rfl
        · rw [if_neg hsame, Fields.get?_cons, Fields.get?_cons, ih]
          by_cases hfirst : name = first
          · subst hfirst
            simp [Ne.symm hsame]
          · simp [hfirst]

theorem mem_keys_insertEntry {name : String} :
    name ∈ Fields.keys (insertEntry mark expander entries) ↔
      name = mark ∨ name ∈ Fields.keys entries := by
  rw [← Fields.isSome_get?, ← Fields.isSome_get?, get?_insertEntry]
  by_cases h : name = mark <;> simp [h]

theorem pairwise_keys_insertEntry (ascending : (Fields.keys entries).Pairwise (· < ·)) :
    (Fields.keys (insertEntry mark expander entries)).Pairwise (· < ·) := by
  induction entries with
  | nil => exact List.pairwise_singleton _ _
  | cons entry rest ih =>
      obtain ⟨first, own⟩ := entry
      obtain ⟨hfirst, hrest⟩ := List.pairwise_cons.mp ascending
      unfold insertEntry
      by_cases hbefore : mark < first
      · rw [if_pos hbefore]
        refine List.pairwise_cons.mpr ⟨fun name hname => ?_, ascending⟩
        rcases List.mem_cons.mp hname with rfl | hlater
        · exact hbefore
        · exact String.lt_trans hbefore (hfirst name hlater)
      · rw [if_neg hbefore]
        by_cases hsame : mark = first
        · subst hsame
          rw [if_pos rfl]
          exact ascending
        · have hafter : first < mark := by
            by_contra hnot
            exact hsame (String.le_antisymm (String.not_lt.mp hnot) (String.not_lt.mp hbefore))
          rw [if_neg hsame]
          refine List.pairwise_cons.mpr ⟨fun name hname => ?_, ih hrest⟩
          rcases (mem_keys_insertEntry mark expander rest).mp hname with rfl | hlater
          · exact hafter
          · exact hfirst name hlater

end

/-! ## What a registry holds -/

/-- The registry holds what the history of its changes has left. -/
structure Reflects (registry : Registry) (history : List Change) : Prop where
  ascending : registry.marks.Pairwise (· < ·)
  latest : ∀ mark, Fields.get? registry.entries mark =
    (latest? history mark).bind Change.expander?

variable {registry : Registry} {history : List Change}

/-- **One change.** -/
theorem Reflects.apply (reflects : Reflects registry history) (change : Change) :
    Reflects (registry.apply change) (history ++ [change]) := by
  cases change with
  | add mark expander =>
      refine ⟨pairwise_keys_insertEntry mark expander _ reflects.ascending, fun name => ?_⟩
      have hentry : Fields.get? (registry.add mark expander).entries name = _ :=
        get?_insertEntry mark expander registry.entries name
      rw [Registry.apply, hentry, latest?_concat, reflects.latest, Change.mark]
      by_cases h : name = mark
      · simp [h, Change.expander?]
      · simp [h, Ne.symm h]
  | remove mark =>
      refine ⟨reflects.ascending.sublist (List.filter_sublist.map Prod.fst), fun name => ?_⟩
      have hentries : (registry.remove mark).entries = Fields.erase registry.entries mark := rfl
      rw [Registry.apply, hentries, latest?_concat, Change.mark]
      by_cases h : name = mark
      · simp [h, Change.expander?]
      · rw [Fields.get?_erase_of_ne _ h, reflects.latest, if_neg (Ne.symm h)]

/-- **A run.** -/
theorem Reflects.applyAll (reflects : Reflects registry history) (changes : List Change) :
    Reflects (registry.applyAll changes) (history ++ changes) := by
  induction changes generalizing registry history with
  | nil => simpa [Registry.applyAll] using reflects
  | cons change rest ih => simpa [Registry.applyAll] using ih (reflects.apply change)

theorem reflects_initialWithin (room : Room) :
    Reflects (initialWithin room) [.add errorBar (expandErrorBarWithin (room - 1))] where
  ascending := List.pairwise_singleton _ _
  latest := fun mark => by
    by_cases h : mark = errorBar
    · simp [initialWithin, latest?, Change.mark, Change.expander?, Fields.get?_cons, h]
    · simp [initialWithin, latest?, Change.mark, Fields.get?_cons, h, Ne.symm h]

namespace Reflects

variable (reflects : Reflects registry history)

include reflects

theorem get?_eq_some {mark : String} {expander : Expander} :
    Fields.get? registry.entries mark = some expander ↔
      latest? history mark = some (.add mark expander) := by
  rw [reflects.latest, Option.bind_eq_some_iff]
  constructor
  · rintro ⟨change, hlatest, hexpander⟩
    rw [hlatest, Change.expander?_eq_some.mp hexpander, mark_of_latest? hlatest]
  · intro hlatest
    exact ⟨_, hlatest, rfl⟩

theorem mem_marks {mark : String} :
    mark ∈ registry.marks ↔ ∃ expander, latest? history mark = some (.add mark expander) := by
  rw [marks, ← Fields.isSome_get?, Option.isSome_iff_exists]
  simp only [reflects.get?_eq_some]

end Reflects

/-! ## What becomes of a spec -/

/-- The mark of a spec is of a type: it is a text, or an object with that text for its type. -/
def IsMarked (fields : Object) (mark : String) : Prop :=
  fields.get? "mark" = some (.str mark) ∨
    ∃ properties : Object, fields.get? "mark" = some (.obj properties) ∧
      properties.get? "type" = some (.str mark)

theorem typeValue_eq_str {fields : Object} {mark : String} :
    typeValue fields = .str mark ↔ IsMarked fields mark := by
  unfold typeValue IsMarked
  cases hmark : fields.get? "mark" with
  | none => simp
  | some value =>
      cases value with
      | obj properties => cases htype : Fields.get? properties "type" <;> simp [htype]
      | _ => simp

/-- The expander that a spec is handed to, or why there is none. -/
def expanderFor (registry : Registry) (fields : Object) : Except SpecFailure Expander :=
  match typeValue fields with
  | .str mark =>
    match Fields.get? registry.entries mark with
    | some expander => .ok expander
    | none => .error (.unknownMark mark)
  | found => .error (.noMarkType found)

/-- An expansion looks for an expander, and calls it with the spec's own configuration laid over the
settings.  It fails without a call where there is none, or where a value that has to be shown cannot
be. -/
theorem expand_eq (registry : Registry) (fields : Object) (settings : Settings) :
    registry.expand fields settings =
      match registry.expanderFor fields with
      | .ok expander =>
        match Settings.configurationFault? (registry.room - 1) (ownConfiguration fields) with
        | some fault => .fail (.unshown fault)
        | none => expander fields (settings.configure (ownConfiguration fields))
      | .error failure =>
        match markFault? (registry.room - 3 + 1) fields with
        | some fault => .fail (.unshown fault)
        | none => .fail (.spec failure) := by
  unfold expand markType expanderFor markFault? Settings.configureWithin
  cases typeValue fields with
  | str mark =>
      dsimp only
      cases Fields.get? registry.entries mark with
      | none => rfl
      | some expander =>
          cases Settings.configurationFault? (registry.room - 1) (ownConfiguration fields) <;> rfl
  | _ =>
      dsimp only
      cases Json.writingFault? .message (registry.room - 3 + 1) _ <;> rfl

/-- Nothing but a missing expander is in the way of a spec that has been read from a text. -/
theorem expand_of_text {registry : Registry} {text : String} {fields : Object}
    (h : Json.read registry.room text = .ok (.obj fields)) (settings : Settings) :
    registry.expand fields settings =
      match registry.expanderFor fields with
      | .ok expander => expander fields (settings.configure (ownConfiguration fields))
      | .error failure => .fail (.spec failure) := by
  rw [expand_eq, markFault?_of_text h, Settings.configurationFault?_of_text h]

theorem expanderFor_eq_ok {fields : Object} {expander : Expander} :
    registry.expanderFor fields = .ok expander ↔
      ∃ mark, IsMarked fields mark ∧ Fields.get? registry.entries mark = some expander := by
  simp only [← typeValue_eq_str]
  unfold expanderFor
  cases typeValue fields with
  | str mark => cases hentry : Fields.get? registry.entries mark <;> simp [hentry]
  | _ => simp

/-- There is none exactly when the spec has no mark, or one without an entry. -/
theorem expanderFor_eq_error {fields : Object} :
    (∃ failure, registry.expanderFor fields = .error failure) ↔
      ∀ mark, IsMarked fields mark → mark ∉ registry.marks := by
  have hnone : (∃ failure, registry.expanderFor fields = .error failure) ↔
      ¬ ∃ expander, registry.expanderFor fields = .ok expander := by
    cases registry.expanderFor fields <;> simp
  rw [hnone]
  simp only [expanderFor_eq_ok, marks, ← Fields.isSome_get?, Option.isSome_iff_exists]
  constructor
  · rintro hnot mark hmarked ⟨expander, hentry⟩
    exact hnot ⟨expander, mark, hmarked, hentry⟩
  · rintro hall ⟨expander, mark, hmarked, hentry⟩
    exact hall mark hmarked ⟨expander, hentry⟩

theorem room_applyAll (registry : Registry) (changes : List Change) :
    (registry.applyAll changes).room = registry.room := by
  unfold applyAll
  induction changes generalizing registry with
  | nil => rfl
  | cons change rest ih =>
      rw [List.foldl_cons, ih]
      cases change <;> rfl

/-- **Runs of the registry.**  After any changes, the marks ascend, and they are those whose latest
change has registered an expander, where that for error bars has been registered at first.  A spec
is handed to the expander of the latest change of its mark.  It is handed to none, and fails,
exactly when it has no mark or its mark is not among those of the registry.

That is so for every spec that has been read from a JSON text.  An object of another origin may hold
values that cannot be shown, and then the complaint about its mark or its own configuration fails in
place of it. -/
theorem applyAll_run (room : Room) (changes : List Change) :
    let history := .add errorBar (expandErrorBarWithin (room - 1)) :: changes
    let registry := (initialWithin room).applyAll changes
    registry.marks.Pairwise (· < ·) ∧
    (∀ mark, mark ∈ registry.marks ↔
      ∃ expander, latest? history mark = some (.add mark expander)) ∧
    (∀ mark, registry.contains mark = true ↔ mark ∈ registry.marks) ∧
    (∀ text fields settings, Json.read room text = .ok (.obj fields) →
      registry.expand fields settings =
        match registry.expanderFor fields with
        | .ok expander => expander fields (settings.configure (ownConfiguration fields))
        | .error failure => .fail (.spec failure)) ∧
    (∀ fields settings, registry.expand fields settings =
      match registry.expanderFor fields with
      | .ok expander =>
        match Settings.configurationFault? (room - 1) (ownConfiguration fields) with
        | some fault => .fail (.unshown fault)
        | none => expander fields (settings.configure (ownConfiguration fields))
      | .error failure =>
        match markFault? (room - 3 + 1) fields with
        | some fault => .fail (.unshown fault)
        | none => .fail (.spec failure)) ∧
    (∀ fields expander, registry.expanderFor fields = .ok expander ↔
      ∃ mark, IsMarked fields mark ∧ latest? history mark = some (.add mark expander)) ∧
    ∀ fields, (∃ failure, registry.expanderFor fields = .error failure) ↔
      ∀ mark, IsMarked fields mark → mark ∉ registry.marks := by
  intro history registry
  have reflects : Reflects registry history := (reflects_initialWithin room).applyAll changes
  have hroom : registry.room = room := room_applyAll (initialWithin room) changes
  refine ⟨reflects.ascending, fun mark => reflects.mem_marks,
    fun mark => Fields.isSome_get? registry.entries mark, ?_, ?_, fun fields expander => ?_,
    fun fields => expanderFor_eq_error⟩
  · intro text fields settings htext
    rw [← hroom] at htext
    exact expand_of_text htext settings
  · intro fields settings
    rw [expand_eq, hroom]
  · rw [expanderFor_eq_ok]
    simp only [reflects.get?_eq_some]

/-- An expander that hands its spec back. -/
private def echoing : Expander := fun fields _ => pure fields

/-- An expander that refuses all specs. -/
private def refusing : Expander := fun _ _ => .fail (.spec (.refusedMark "boxplot"))

/-- A run in which an expander is replaced, one is forgotten, and another was never there. -/
private def boxplotRun : List Change :=
  [.add "boxplot" refusing, .remove errorBar, .remove "violin", .add "boxplot" echoing]

theorem boxplotRun_run :
    ((initialWithin .direct).applyAll boxplotRun).marks.Pairwise (· < ·) ∧
    "boxplot" ∈ ((initialWithin .direct).applyAll boxplotRun).marks ∧
    errorBar ∉ ((initialWithin .direct).applyAll boxplotRun).marks ∧
    ((initialWithin .direct).applyAll boxplotRun).expand
      [("mark", .obj [("type", .str "boxplot")])] .default =
        pure [("mark", .obj [("type", .str "boxplot")])] := by
  obtain ⟨hascending, hmarks, -, -, hexpand, hfor, -⟩ := applyAll_run .direct boxplotRun
  have hboxplot : latest? (.add errorBar (expandErrorBarWithin (Room.direct - 1)) :: boxplotRun)
      "boxplot" = some (.add "boxplot" echoing) := rfl
  refine ⟨hascending, (hmarks "boxplot").mpr ⟨_, hboxplot⟩, ?_, ?_⟩
  · rw [hmarks]
    rintro ⟨expander, hlatest⟩
    cases hlatest
  · rw [hexpand, (hfor _ echoing).mpr ⟨"boxplot", Or.inr ⟨_, rfl, rfl⟩, hboxplot⟩]
    rfl

end LayeredMarks.Registry
