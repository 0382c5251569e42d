import LayeredMarks.Proofs.NormalForm

/-!
# Which specs are accepted

A spec is read without being looked at twice: its channels are sorted into definitions of fields and
everything else, definitions of fields are read, lists are followed, and the first definition that
is refused ends the reading of the encoding.  This file says which specs are accepted, without
mentioning the reading, and what is reported of the others: `UnitSpec.readWithin_grammar`.

The reading of nested lists needs room, and so does looking up a word, for a value that is none is
shown.  A spec with a channel that is nested too deep is not read even if nothing is wrong with it
(`deepDetail_nestedTooDeep`).

## Strategy

* **Definitions.**  `ChannelDef.decidedBy_read`: what is read of a value is decided by the first
  object in it that is refused, in the order of `Json.reached`.
* **Room.**  `ChannelDef.descent_eq`: the reading comes to the values of nested lists in the order
  of `Json.visits`, and ends at the first for which there is no room or that is refused.
* **Fields.**  A spec is accepted when its mark and its encoding are, and the issues of both are
  listed otherwise (`issues_mark`, `issues_encoding`).
-/

namespace LayeredMarks

namespace ChannelDef

/-! ## The first definition that is refused -/

/-- The object defines a field, and the definition is refused. -/
def isRejected (properties : Object) : Bool :=
  definesField properties && (FieldDef.read properties).toOption.isNone

theorem isRejected_eq_false {properties : Object} :
    isRejected properties = false ↔
      (definesField properties = true → ∃ d, FieldDef.read properties = .ok d) := by
  unfold isRejected
  cases definesField properties with
  | false => simp
  | true => cases FieldDef.read properties <;> simp

/-- The reading is decided by the first of the objects that is refused: its issues are those of the
reading, and where there is none, something is read. -/
def DecidedBy {α : Type} (objects : List Object) (reading : Checked α) : Prop :=
  match objects.find? isRejected with
  | none => ∃ a, reading = .ok a
  | some properties => reading = .refused (FieldDef.read properties).issues

namespace DecidedBy

variable {α β : Type} {objects others : List Object} {reading : Checked α}

theorem map (h : DecidedBy objects reading) (f : α → β) : DecidedBy objects (reading.map f) := by
  unfold DecidedBy at h ⊢
  split at h
  · obtain ⟨a, rfl⟩ := h
    exact ⟨f a, rfl⟩
  · rw [h]
    rfl

theorem andThen (h : DecidedBy objects reading) {next : α → Checked β}
    (hnext : ∀ a, DecidedBy others (next a)) :
    DecidedBy (objects ++ others) (reading.andThen next) := by
  unfold DecidedBy at h
  cases hfound : objects.find? isRejected with
  | none =>
      rw [hfound] at h
      obtain ⟨a, rfl⟩ := h
      have hrest := hnext a
      rw [DecidedBy] at hrest ⊢
      rw [List.find?_append, hfound, Option.none_or]
      exact hrest
  | some properties =>
      rw [hfound] at h
      rw [DecidedBy, List.find?_append, hfound, Option.some_or, h]
      rfl

/-- Something is read exactly when none of the objects is refused. -/
theorem isOk_iff (h : DecidedBy objects reading) :
    (∃ a, reading = .ok a) ↔ ∀ properties ∈ objects, isRejected properties = false := by
  unfold DecidedBy at h
  split at h
  · rename_i hnone
    simpa [h] using hnone
  · rename_i properties hsome
    rw [h]
    refine iff_of_false (by simp) fun hall => ?_
    have hrejected := List.find?_some hsome
    rw [hall properties (List.mem_of_find?_eq_some hsome)] at hrejected
    cases hrejected

end DecidedBy

mutual

/-- **Definitions.**  The reading of a value is decided by the first object in it that is
refused. -/
theorem decidedBy_read (value : Json) : DecidedBy value.reached (read value) := by
  cases value with
  | obj properties =>
      rw [Json.reached, read, readObject, DecidedBy]
      cases hrejected : isRejected properties with
      | true =>
          obtain ⟨defines, hnone⟩ := (Bool.and_eq_true _ _).mp hrejected
          rw [List.find?_cons_of_pos hrejected, if_pos defines]
          cases hread : FieldDef.read properties with
          | ok d => simp [hread] at hnone
          | refused issues =>
              show Checked.map field (.refused issues) = .refused (FieldDef.read properties).issues
              rw [hread]
              rfl
      | false =>
          rw [List.find?_cons_of_neg (by simp [hrejected])]
          cases hdefines : definesField properties with
          | false => exact ⟨_, rfl⟩
          | true =>
              obtain ⟨d, hd⟩ := isRejected_eq_false.mp hrejected hdefines
              exact ⟨.field d, by rw [if_pos rfl, hd]; rfl⟩
  | arr items =>
      rw [Json.reached_arr, read]
      exact (decidedBy_readItems items).map list
  | _ => exact ⟨_, rfl⟩

theorem decidedBy_readItems (items : List Json) :
    DecidedBy (items.flatMap Json.reached) (readItems items) := by
  cases items with
  | nil => exact ⟨[], rfl⟩
  | cons item rest =>
      rw [List.flatMap_cons, readItems]
      exact (decidedBy_read item).andThen fun first => (decidedBy_readItems rest).map _

end

/-! ## Room -/

end ChannelDef

/-- The values in nested lists and the lists themselves, in the order in which the reading comes to
them, each with the number of lists around it. -/
def Json.visits (depth : Nat) : Json → List (Nat × Json)
  | arr items => (depth, arr items) :: visitsOfItems (depth + 1) items
  | value => [(depth, value)]
where
  visitsOfItems (depth : Nat) : List Json → List (Nat × Json)
    | [] => []
    | item :: rest => item.visits depth ++ visitsOfItems depth rest

theorem Json.visitsOfItems_eq (depth : Nat) (items : List Json) :
    visits.visitsOfItems depth items = items.flatMap (visits depth) := by
  induction items with
  | nil => rfl
  | cons item rest ih => rw [visits.visitsOfItems, ih, List.flatMap_cons]

namespace ChannelDef

/-- The failure of a reading that breaks off at a value itself, inside of so many lists: there is no
room for the value, or none to look up the type of the field that it defines. -/
def failureAt? (room : Room) (visit : Nat × Json) : Option Failure :=
  obstacle? (room - 2 * visit.1) <|> visit.2.object?.bind fun properties =>
    if definesField properties then FieldDef.obstacle? (room - 2 * visit.1) properties else none

/-- The reading ends at a value: it breaks off there, or the value is refused. -/
def isStop (room : Room) (visit : Nat × Json) : Bool :=
  (failureAt? room visit).isSome || visit.2.object?.any isRejected

/-- How the reading ends that comes to these values. -/
def ending (room : Room) (visits : List (Nat × Json)) : Descent :=
  match visits.find? (isStop room) with
  | none => .complete
  | some visit =>
    match failureAt? room visit with
    | some failure => .broken failure
    | none => .refused

theorem ending_nil (room : Room) : ending room [] = .complete := rfl

theorem ending_cons (room : Room) (visit : Nat × Json) (rest : List (Nat × Json)) :
    ending room (visit :: rest) =
      (Descent.passing (failureAt? room visit)).andThen
        (if visit.2.object?.any isRejected then .refused else ending room rest) := by
  unfold ending
  cases hfailure : failureAt? room visit with
  | some failure => simp [isStop, hfailure, Descent.passing, Descent.andThen]
  | none =>
      cases hrejected : visit.2.object?.any isRejected with
      | true => simp [isStop, hfailure, hrejected, Descent.passing, Descent.andThen]
      | false => simp [isStop, hfailure, hrejected, Descent.passing, Descent.andThen]

theorem ending_append (room : Room) (first rest : List (Nat × Json)) :
    ending room (first ++ rest) = (ending room first).andThen (ending room rest) := by
  unfold ending
  rw [List.find?_append]
  cases first.find? (isStop room) with
  | none => rfl
  | some visit =>
      rw [Option.some_or]
      dsimp only
      split <;> rfl

/-- An object is read by looking up its type and then everything else. -/
theorem ofChecked_readObject (properties : Object) :
    Descent.ofChecked (readObject properties) =
      if isRejected properties then .refused else .complete := by
  have hread := (decidedBy_read (.obj properties)).isOk_iff
  rw [read, Json.reached, List.forall_mem_singleton] at hread
  cases hobject : readObject properties with
  | ok channel => simp [hread.mp ⟨channel, hobject⟩, Descent.ofChecked]
  | refused issues =>
      have hrejected : isRejected properties = true := by
        simpa [hobject] using hread
      simp [hrejected, Descent.ofChecked]

private theorem sub_sub_two (room depth : Nat) : room - 2 * depth - 2 = room - 2 * (depth + 1) := by
  omega

mutual

/-- **Room.**  The reading of a value ends as that of the values in it, in order. -/
theorem descent_eq (room : Room) (depth : Nat) (value : Json) :
    descent (room - 2 * depth) value = ending room (value.visits depth) := by
  cases value with
  | obj properties =>
      rw [descent, descentOfObject, ofChecked_readObject, ← Descent.andThen_assoc,
        ← Descent.passing_orElse, Json.visits, ending_cons, ending_nil]
      · rfl
      · simp
  | arr items =>
      have hitems := descentOfItems_eq room (depth + 1) items
      rw [descent, sub_sub_two, hitems, Json.visits, Json.visitsOfItems_eq, ending_cons]
      simp [failureAt?, Json.object?]
  | _ => simp [descent, Json.visits, ending_cons, ending_nil, failureAt?, Json.object?]

theorem descentOfItems_eq (room : Room) (depth : Nat) (items : List Json) :
    descentOfItems (room - 2 * depth) items = ending room (items.flatMap (Json.visits depth)) := by
  cases items with
  | nil => rfl
  | cons item rest =>
      rw [descentOfItems, List.flatMap_cons, ending_append, descent_eq room depth item,
        descentOfItems_eq room depth rest]

end

end ChannelDef

/-! ## The fields of a spec -/

namespace UnitSpec

/-- The mark is the name of the error bar, or an object that defines one. -/
def AcceptsMark : Option Json → Prop
  | some (.str name) => name = errorBar
  | some (.obj properties) => ∃ mark, MarkDef.readFields properties = .ok mark
  | _ => False

/-- What is wrong with a mark. -/
def issuesOfMark : Option Json → List Issue
  | none => [⟨[.key "mark"], .missing⟩]
  | some (.str name) =>
    if name = errorBar then []
    else [⟨[.key "mark", .key "type"], .misfit (.otherMark (.str name))⟩]
  | some (.obj properties) => ((MarkDef.readFields properties).under (.key "mark")).issues
  | some _ => [⟨[.key "mark"], .notRecord "ErrorBarDef"⟩]

/-- The encoding is absent or null, or an object in which every object that defines a field is
accepted as a field definition: the channels themselves, and what stands in their lists, however
deep these are. -/
def AcceptsEncoding : Option Json → Prop
  | none | some .null => True
  | some (.obj channels) => ∀ channel ∈ channels, ∀ properties ∈ channel.2.reached,
      ChannelDef.definesField properties = true → ∃ d, FieldDef.read properties = .ok d
  | some _ => False

/-- What is wrong with an encoding: that it is no object, or what is wrong with the first field
definition that is refused.  The name of its channel is not told. -/
def issuesOfEncoding : Option Json → List Issue
  | none | some .null => []
  | some (.obj channels) =>
    match (channels.flatMap fun channel => channel.2.reached).find? ChannelDef.isRejected with
    | some properties => ((FieldDef.read properties).under (.key "encoding")).issues
    | none => []
  | some found => [⟨[.key "encoding"], .misfit (.encodingNotObject found)⟩]

/-- The failure of a reading that breaks off at the first value of an encoding at which it ends. -/
def failureIn? (room : Room) : Option Json → Option Failure
  | some (.obj channels) =>
    ((channels.flatMap fun channel => channel.2.visits 0).find? (ChannelDef.isStop room)).bind
      (ChannelDef.failureAt? room)
  | _ => none

theorem decidedBy_readChannels (channels : Object) :
    ChannelDef.DecidedBy (channels.flatMap fun channel => channel.2.reached)
      (readChannels channels) := by
  unfold readChannels
  induction channels with
  | nil => exact ⟨[], rfl⟩
  | cons channel rest ih =>
      rw [List.flatMap_cons, Checked.each]
      exact ((ChannelDef.decidedBy_read channel.2).map _).andThen fun first => ih.map _

theorem failure?_descentOfChannels (room : Room) (encoding : Option Json) :
    (descentOfChannels room (encoding.getD .null)).failure? = failureIn? room encoding := by
  rcases encoding with _ | value
  · rfl
  · cases value with
    | obj channels =>
        have hending := ChannelDef.descentOfItems_eq room 0 (channels.map Prod.snd)
        rw [Nat.mul_zero, Nat.sub_zero, List.flatMap_map] at hending
        rw [Option.getD_some, descentOfChannels, hending, failureIn?, ChannelDef.ending]
        cases (channels.flatMap fun channel => channel.2.visits 0).find?
            (ChannelDef.isStop room) with
        | none => rfl
        | some visit =>
            simp only [Option.bind_some]
            cases ChannelDef.failureAt? room visit <;> rfl
    | _ => rfl

/-- A name is read as the mark of that type, of which there is one. -/
theorem readMark_str (name : String) :
    (name = errorBar ∧ ∃ mark, readMark (.str name) = .ok mark) ∨
    (name ≠ errorBar ∧ readMark (.str name) =
      .refused [⟨[.key "type"], .misfit (.otherMark (.str name))⟩]) := by
  by_cases hname : name = errorBar
  · subst hname
    exact Or.inl ⟨rfl, _, rfl⟩
  · refine Or.inr ⟨hname, ?_⟩
    have htype : MarkDef.readType (.str name) = .fail (.misfit (.otherMark (.str name))) := by
      have hother : (Json.str name).isText errorBar = false := by simpa [Json.isText] using hname
      rw [MarkDef.readType, hother]
      rfl
    have hfirst : Reading.withDefault [("type", Json.str name)] "type" MarkDef.readType () =
        .refused [⟨[.key "type"], .misfit (.otherMark (.str name))⟩] := by
      rw [Reading.withDefault, Fields.get?_cons, if_pos rfl]
      dsimp only
      rw [htype]
      rfl
    rw [readMark, MarkDef.readFields, hfirst]
    rfl

theorem isOk_mark (fields : Object) :
    (∃ mark, Reading.required fields "mark" readMark = .ok mark) ↔
      AcceptsMark (fields.get? "mark") := by
  unfold Reading.required
  rcases fields.get? "mark" with _ | value
  · simp [AcceptsMark, Checked.fail]
  · cases value with
    | str name =>
        rcases readMark_str name with ⟨rfl, mark, hmark⟩ | ⟨hname, hmark⟩
        · simp [AcceptsMark, hmark]
        · simp [AcceptsMark, hmark, hname]
    | obj properties => simp [AcceptsMark, readMark, MarkDef.read]
    | _ => simp [AcceptsMark, readMark, MarkDef.read, Checked.fail]

theorem issues_mark (fields : Object) :
    (Reading.required fields "mark" readMark).issues = issuesOfMark (fields.get? "mark") := by
  unfold Reading.required
  rcases fields.get? "mark" with _ | value
  · rfl
  · cases value with
    | str name =>
        rcases readMark_str name with ⟨rfl, mark, hmark⟩ | ⟨hname, hmark⟩
        · simp [issuesOfMark, hmark, Checked.under, Checked.issues]
        · simp [issuesOfMark, hmark, hname, Checked.under, Checked.issues]
    | _ => rfl

theorem isOk_encoding (fields : Object) :
    (∃ encoding, Reading.withDefault fields "encoding" readEncoding [] = .ok encoding) ↔
      AcceptsEncoding (fields.get? "encoding") := by
  unfold Reading.withDefault
  rcases fields.get? "encoding" with _ | value
  · simp [AcceptsEncoding]
  · cases value with
    | null => simp [AcceptsEncoding, readEncoding]
    | obj channels =>
        simp only [AcceptsEncoding, readEncoding, Checked.under_eq_ok,
          (decidedBy_readChannels channels).isOk_iff, ChannelDef.isRejected_eq_false,
          List.forall_mem_flatMap]
    | _ => simp [AcceptsEncoding, readEncoding, Checked.fail]

theorem issues_encoding (fields : Object) :
    (Reading.withDefault fields "encoding" readEncoding []).issues =
      issuesOfEncoding (fields.get? "encoding") := by
  unfold Reading.withDefault
  rcases fields.get? "encoding" with _ | value
  · rfl
  · cases value with
    | obj channels =>
        have hdecided := decidedBy_readChannels channels
        dsimp only [issuesOfEncoding, readEncoding]
        unfold ChannelDef.DecidedBy at hdecided
        split at hdecided
        · rename_i hnone
          obtain ⟨encoding, hread⟩ := hdecided
          rw [hread, hnone]
          rfl
        · rename_i properties hsome
          rw [hdecided, hsome, Checked.issues_under]
          exact (Checked.issues_under (.key "encoding") (FieldDef.read properties)).symm
    | _ => rfl

theorem isOk_read (fields : Object) :
    (∃ spec, read fields = .ok spec) ↔
      AcceptsMark (fields.get? "mark") ∧ AcceptsEncoding (fields.get? "encoding") := by
  rw [← isOk_mark, ← isOk_encoding]
  simp only [read, Checked.seq_eq_ok, Checked.fmap_eq_ok]
  constructor
  · rintro ⟨_, _, ⟨mark, hmark, rfl⟩, encoding, hencoding, -⟩
    exact ⟨⟨mark, hmark⟩, encoding, hencoding⟩
  · rintro ⟨⟨mark, hmark⟩, encoding, hencoding⟩
    exact ⟨_, _, ⟨mark, hmark, rfl⟩, encoding, hencoding, rfl⟩

theorem issues_read (fields : Object) :
    (read fields).issues =
      issuesOfMark (fields.get? "mark") ++ issuesOfEncoding (fields.get? "encoding") := by
  rw [read, Checked.issues_seq, issues_encoding, ← issues_mark]
  cases Reading.required fields "mark" readMark <;> rfl

/-- **Which specs are accepted.**  Unless the reading breaks off, a spec is accepted when its mark
and its encoding are, and otherwise the issues of its mark and then those of its encoding are
reported.  It breaks off where there is no room: to show a value of the mark, or at the first value
of the encoding at which it ends.  In front of such a value no definition is refused. -/
theorem readWithin_grammar (room : Room) (fields : Object) :
    let mark := fields.get? "mark"
    let encoding := fields.get? "encoding"
    let outcome := (readWithin room fields).outcome
    match MarkDef.obstacle? room (mark.getD .null) <|> failureIn? (room - 4) encoding with
    | some failure => outcome = .error failure ∧ failure.isDepth = true
    | none =>
      ((∃ spec, outcome = .ok spec) ↔ AcceptsMark mark ∧ AcceptsEncoding encoding) ∧
      ((∃ spec, outcome = .ok spec) ∨
        outcome = .error (.invalid (issuesOfMark mark ++ issuesOfEncoding encoding))) := by
  intro mark encoding outcome
  have hobstacle : obstacle? room fields =
      (MarkDef.obstacle? room (mark.getD .null) <|> failureIn? (room - 4) encoding) := by
    rw [← failure?_descentOfChannels]
    rfl
  have houtcome : outcome = _ := readWithin_outcome room fields
  rw [← hobstacle]
  split
  · rename_i failure hfailure
    rw [hfailure] at houtcome
    exact ⟨houtcome, isDepth_of_obstacle? hfailure⟩
  · rename_i hnone
    rw [hnone] at houtcome
    rw [houtcome, ← isOk_read, ← issues_read]
    cases read fields <;> simp [Checked.issues]

end UnitSpec

/-! ## A channel that is nested too deep -/

theorem Json.reached_nested (n : Nat) : (Json.nested n).reached = [] := by
  induction n with
  | zero => rfl
  | succ n ih => rw [nested, reached_arr, List.flatMap_singleton, ih]

/-- With an even room, all that is missing in the end is the room for a comparison. -/
theorem ChannelDef.descent_nested {n half : Nat} (enough : 2 ≤ half) (deep : half ≤ n + 2) :
    descent (2 * half) (.nested n) = .broken (.nestedTooDeep .comparison) := by
  induction n generalizing half with
  | zero =>
      obtain rfl : half = 2 := by omega
      rfl
  | succ n ih =>
      rw [Json.nested, descent]
      by_cases hroom : half = 2
      · subst hroom
        rfl
      · have hnone : obstacle? (2 * half) = none := by
          rw [obstacle?, if_neg (by show ¬ 2 * half < 4; omega),
            if_neg (by show ¬ 2 * half < 5; omega)]
        have hinner : 2 * half - 2 = 2 * (half - 1) := by omega
        rw [hnone, hinner, descentOfItems, ih (by omega) (by omega)]
        rfl

/-- The spec of an error bar with a null inside of so many lists among its details. -/
private def deepDetail (depth : Nat) : Object :=
  [("mark", .str errorBar),
   ("encoding", .obj [("y", .obj [("field", .str "b"), ("type", .str "quantitative")]),
     ("detail", .nested depth)])]

private theorem acceptsEncoding_deepDetail (depth : Nat) :
    UnitSpec.AcceptsEncoding ((deepDetail depth).get? "encoding") := by
  intro channel hchannel properties hproperties _
  simp only [List.mem_cons, List.not_mem_nil, or_false] at hchannel
  rcases hchannel with rfl | rfl
  · obtain rfl := List.mem_singleton.mp hproperties
    exact ⟨_, rfl⟩
  · rw [Json.reached_nested] at hproperties
    cases hproperties

/-- There is nothing wrong with a null inside of 700 lists, but it is not read. -/
theorem deepDetail_nestedTooDeep :
    UnitSpec.AcceptsMark ((deepDetail 700).get? "mark") ∧
    UnitSpec.AcceptsEncoding ((deepDetail 700).get? "encoding") ∧
    (UnitSpec.readWithin (.direct - 1) (deepDetail 700)).outcome =
      .error (.nestedTooDeep .comparison) := by
  refine ⟨rfl, acceptsEncoding_deepDetail 700, ?_⟩
  have hdetail : ChannelDef.descent (Room.direct - 1 - 4) (.nested 700) =
      .broken (.nestedTooDeep .comparison) :=
    @ChannelDef.descent_nested 700 495 (by decide) (by decide)
  have hobstacle : UnitSpec.obstacle? (.direct - 1) (deepDetail 700) =
      some (.nestedTooDeep .comparison) := by
    have hencoding : ((deepDetail 700).get? "encoding").getD .null = .obj
        [("y", .obj [("field", .str "b"), ("type", .str "quantitative")]),
          ("detail", .nested 700)] := rfl
    rw [UnitSpec.obstacle?, hencoding, UnitSpec.descentOfChannels]
    simp only [List.map_cons, List.map_nil, ChannelDef.descentOfItems, hdetail]
    rfl
  rw [UnitSpec.readWithin_outcome, hobstacle]

end LayeredMarks
