import LayeredMarks.Proofs.Dataflow

/-!
# Reading the bounds back

Where an extent has no operators for the bounds, two expressions place the spread on either side of
the center.  They name the columns of both as members of the datum, `datum.mean_yield` say, and the
name of a column holds the name of a field, which may be any text.  Whoever evaluates such an
expression takes the longest run of member characters for the name.

This file says what is read then: the two columns that the aggregate step has computed, if the field
is made of member characters alone, and never both of them otherwise (`UnitSpec.summary_bounds`).

## Strategy

* **One member.**  `takeWhile_run` and `dropWhile_run`: a run ends at the blank behind it, and
  nowhere before when all its characters are member characters.
* **One expression.**  `readBound_boundExpression`: the second member is only found in its place
  when the first has been read to its end.
* **The names.**  The center and the spread put words of letters before the field, so that the field
  alone decides (`isMemberName_join`).
-/

namespace LayeredMarks

/-! ## Members of the datum -/

/-- A rule for the characters in the name of a member: of the basic characters, exactly letters,
digits, underscores and dollars are among them.  Letters beyond the basic ones may count or not. -/
def MemberRule (isMember : Char → Bool) : Prop :=
  ∀ c : Char, c.toNat < 128 → (isMember c = true ↔ c.isAlphanum = true ∨ c = '_' ∨ c = '$')

/-- The narrowest rule: no letter beyond the basic ones counts. -/
def isBasicMember (c : Char) : Bool :=
  c.isAlphanum || c == '_' || c == '$'

theorem memberRule_basic : MemberRule isBasicMember := by
  intro c _
  simp [isBasicMember, or_assoc]

namespace MemberRule

variable {isMember : Char → Bool}

theorem underscore (rule : MemberRule isMember) : isMember '_' = true :=
  (rule '_' (by decide)).mpr (Or.inr (Or.inl rfl))

theorem blank (rule : MemberRule isMember) : isMember ' ' = false := by
  rw [← Bool.not_eq_true, rule ' ' (by decide)]
  decide

end MemberRule

/-- All characters of the name are member characters. -/
def IsMemberName (isMember : Char → Bool) (name : String) : Prop :=
  ∀ c ∈ name.toList, isMember c = true

/-- Reads a member of the datum: the longest run of member characters is its name. -/
def readMember (isMember : Char → Bool) (cs : List Char) : Option (String × List Char) :=
  (cs.dropPrefix? "datum.".toList).map fun rest =>
    (String.ofList (rest.takeWhile isMember), rest.dropWhile isMember)

/-- Reads an operator between blanks. -/
def readOperator : List Char → Option (String × List Char)
  | ' ' :: '+' :: ' ' :: rest => some ("+", rest)
  | ' ' :: '-' :: ' ' :: rest => some ("-", rest)
  | _ => none

/-- Reads an expression that joins two members of the datum by an operator. -/
def readBound (isMember : Char → Bool) (expression : String) :
    Option (String × String × String) := do
  let (first, rest) ← readMember isMember expression.toList
  let (operator, rest) ← readOperator rest
  let (second, rest) ← readMember isMember rest
  if rest.isEmpty then some (first, operator, second) else none

/-! ## One member -/

section

variable {isMember : Char → Bool}

theorem readMember_datum (rest : List Char) :
    readMember isMember ("datum.".toList ++ rest) =
      some (String.ofList (rest.takeWhile isMember), rest.dropWhile isMember) := by
  have hrest : ("datum.".toList ++ rest).dropPrefix? "datum.".toList = some rest :=
    List.dropPrefix?_eq_some_iff.mpr ⟨_, rfl, BEq.rfl⟩
  rw [readMember, hrest, Option.map_some]

theorem isMemberName_of_run {name : String} {cs : List Char}
    (h : String.ofList (cs.takeWhile isMember) = name) : IsMemberName isMember name := by
  intro c hc
  rw [← h, String.toList_ofList] at hc
  exact List.all_eq_true.mp List.all_takeWhile c hc

theorem takeWhile_run {name : String} (named : IsMemberName isMember name) {c : Char}
    (stop : isMember c = false) (rest : List Char) :
    (name.toList ++ c :: rest).takeWhile isMember = name.toList := by
  rw [List.takeWhile_append_of_pos named, List.takeWhile_cons_of_neg (by simp [stop]),
    List.append_nil]

theorem dropWhile_run {name : String} (named : IsMemberName isMember name) {c : Char}
    (stop : isMember c = false) (rest : List Char) :
    (name.toList ++ c :: rest).dropWhile isMember = c :: rest := by
  rw [List.dropWhile_append_of_pos named, List.dropWhile_cons_of_neg (by simp [stop])]

/-! ## One expression -/

private theorem toList_boundExpression (center spread operator : String) :
    (boundExpression center spread operator).toList =
      "datum.".toList ++ (center.toList ++
        ' ' :: (operator.toList ++ ' ' :: ("datum.".toList ++ spread.toList))) := by
  simp [boundExpression, String.toList_append]

private theorem readOperator_of_mem {operator : String} (h : operator ∈ ["+", "-"])
    (rest : List Char) :
    readOperator (' ' :: (operator.toList ++ ' ' :: rest)) = some (operator, rest) := by
  simp only [List.mem_cons, List.not_mem_nil, or_false] at h
  rcases h with rfl | rfl <;> rfl

/-- **One expression.**  The center and the spread are read exactly when both are made of member
characters. -/
theorem readBound_boundExpression (rule : MemberRule isMember) (center spread : String)
    {operator : String} (hoperator : operator ∈ ["+", "-"]) :
    readBound isMember (boundExpression center spread operator) = some (center, operator, spread) ↔
      IsMemberName isMember center ∧ IsMemberName isMember spread := by
  unfold readBound
  rw [toList_boundExpression, readMember_datum]
  dsimp only [Option.bind_eq_bind, Option.bind_some]
  constructor
  · intro h
    -- whatever comes behind it, the first name is a run of member characters
    have hcenter : IsMemberName isMember center := by
      obtain ⟨⟨op, rest⟩, -, h⟩ := Option.bind_eq_some_iff.mp h
      obtain ⟨⟨second, rest⟩, -, h⟩ := Option.bind_eq_some_iff.mp h
      obtain ⟨-, hread⟩ := Option.ite_none_right_eq_some.mp h
      exact isMemberName_of_run (Prod.mk.inj (Option.some.inj hread)).1
    rw [dropWhile_run hcenter rule.blank, readOperator_of_mem hoperator] at h
    dsimp only [Option.bind_some] at h
    rw [readMember_datum] at h
    obtain ⟨-, hread⟩ := Option.ite_none_right_eq_some.mp h
    exact ⟨hcenter, isMemberName_of_run (Prod.mk.inj (Prod.mk.inj (Option.some.inj hread)).2).2⟩
  · rintro ⟨hcenter, hspread⟩
    rw [takeWhile_run hcenter rule.blank, dropWhile_run hcenter rule.blank,
      readOperator_of_mem hoperator]
    dsimp only [Option.bind_some]
    rw [readMember_datum]
    have htake : (spread.toList ++ []).takeWhile isMember = spread.toList ++ [] :=
      List.takeWhile_append_of_pos hspread
    have hdrop : (spread.toList ++ []).dropWhile isMember = [] :=
      List.dropWhile_append_of_pos hspread
    rw [List.append_nil] at htake hdrop
    simp [htake, hdrop, String.ofList_toList]

/-! ## The names of the columns -/

/-- Behind a word of member characters and an underscore, the field alone decides. -/
theorem isMemberName_join (rule : MemberRule isMember) {word : String}
    (named : IsMemberName isMember word) (field : String) :
    IsMemberName isMember (word ++ "_" ++ field) ↔ IsMemberName isMember field := by
  unfold IsMemberName at named ⊢
  simp only [String.toList_append, List.mem_append]
  constructor
  · intro h c hc
    exact h c (Or.inr hc)
  · rintro h c ((hword | hunderscore) | hfield)
    · exact named c hword
    · obtain rfl : c = '_' := by simpa using hunderscore
      exact rule.underscore
    · exact h c hfield

theorem isMemberName_of_alphanumeric (rule : MemberRule isMember) {word : String}
    (h : ∀ c ∈ word.toList, c.toNat < 128 ∧ c.isAlphanum = true) : IsMemberName isMember word :=
  fun c hc => (rule c (h c hc).1).mpr (Or.inl (h c hc).2)

theorem isMemberName_center (rule : MemberRule isMember) (center : Center) (field : String) :
    IsMemberName isMember (Vocabulary.word center ++ "_" ++ field) ↔
      IsMemberName isMember field := by
  refine isMemberName_join rule (isMemberName_of_alphanumeric rule ?_) field
  cases center <;> simp [Vocabulary.word]

theorem isMemberName_spread (rule : MemberRule isMember) (field : String) :
    IsMemberName isMember ("extent_" ++ field) ↔ IsMemberName isMember field := by
  have hword : IsMemberName isMember "extent" := isMemberName_of_alphanumeric rule (by simp)
  exact isMemberName_join rule hword field

/-- The center and the spread of a field are read exactly when the field is made of member
characters. -/
theorem readBound_derived (rule : MemberRule isMember) (center : Center) (field : String)
    {operator : String} (hoperator : operator ∈ ["+", "-"]) :
    readBound isMember
        (boundExpression (Vocabulary.word center ++ "_" ++ field) ("extent_" ++ field) operator) =
          some (Vocabulary.word center ++ "_" ++ field, operator, "extent_" ++ field) ↔
      IsMemberName isMember field := by
  rw [readBound_boundExpression rule _ _ hoperator, isMemberName_center rule,
    isMemberName_spread rule, and_self]

/-! ## The bounds of a summary -/

/-- **The bounds of a summary.**  For an extent that puts a spread on either side of the center, the
two calculations after the aggregate step are those of the bounds.  Both columns they name have been
computed by the aggregate step, and each expression is read as the center and then the spread
exactly when the summarized field is made of member characters. -/
theorem UnitSpec.summary_bounds (rule : MemberRule isMember) (spec : UnitSpec) (orient : Orient)
    (center : Center) {extent : Extent} (symmetric : extent = .stderr ∨ extent = .stdev)
    {axisDef : FieldDef}
    (shown : spec.encoding.get? orient.axis.channel = some (.field axisDef))
    (sourced : ∀ d ∈ spec.fieldsBeside orient.axis, d.hasSource = true) :
    ∃ summary spread upper lower, (spec.summary orient center extent).outcome = .ok summary ∧
      summary.names = .of (axisDef.field.getD "") center extent ∧
      summary.names.spread = some spread ∧
      summary.pipeline.after =
        [.calculate upper summary.names.upper, .calculate lower summary.names.lower] ∧
      summary.pipeline.Computes summary.names.center ∧ summary.pipeline.Computes spread ∧
      (readBound isMember upper = some (summary.names.center, "+", spread) ↔
        IsMemberName isMember (axisDef.field.getD "")) ∧
      (readBound isMember lower = some (summary.names.center, "-", spread) ↔
        IsMemberName isMember (axisDef.field.getD "")) := by
  have houtcome := summary_outcome spec orient center extent shown
  rw [List.all_eq_true.mpr sourced, if_pos rfl] at houtcome
  let names := DerivedNames.of (axisDef.field.getD "") center extent
  have hspread : names.spread = some ("extent_" ++ axisDef.field.getD "") := by
    rcases symmetric with rfl | rfl <;> rfl
  have hafter : boundSteps names =
      [.calculate (boundExpression names.center ("extent_" ++ axisDef.field.getD "") "+")
        names.upper,
       .calculate (boundExpression names.center ("extent_" ++ axisDef.field.getD "") "-")
        names.lower] := by
    rw [boundSteps, hspread]
  exact ⟨_, _, _, _, houtcome, rfl, hspread, hafter, computes_center, computes_spread hspread,
    readBound_derived rule center _ (by decide), readBound_derived rule center _ (by decide)⟩

end

/-- The yield of barley on several sites. -/
private def siteYield : UnitSpec :=
  { (default : UnitSpec) with
    encoding :=
      [("x", .field { (default : FieldDef) with field := some "site", type := some .ordinal }),
       ("y", .field { (default : FieldDef) with
          field := some "yield_2", type := some .quantitative })] }

theorem siteYield_bounds :
    ∃ summary spread upper lower,
      (siteYield.summary .vertical .median .stdev).outcome = .ok summary ∧
      summary.pipeline.after =
        [.calculate upper summary.names.upper, .calculate lower summary.names.lower] ∧
      readBound isBasicMember upper = some (summary.names.center, "+", spread) ∧
      readBound isBasicMember lower = some (summary.names.center, "-", spread) := by
  have sourced : ∀ d ∈ siteYield.fieldsBeside .y, d.hasSource = true :=
    List.all_eq_true.mp (by decide)
  have named : IsMemberName isBasicMember "yield_2" := by
    unfold IsMemberName
    simp [isBasicMember]
  obtain ⟨summary, spread, upper, lower, hsummary, -, -, hafter, -, -, hupper, hlower⟩ :=
    UnitSpec.summary_bounds memberRule_basic siteYield .vertical .median (Or.inr rfl) rfl sourced
  exact ⟨summary, spread, upper, lower, hsummary, hafter, hupper.mpr named, hlower.mpr named⟩

/-- A summarized field with a blank in its name. -/
private def blankedYield : Object :=
  [("mark", .str errorBar),
   ("encoding", .obj
     [("x", .obj [("field", .str "site"), ("type", .str "ordinal")]),
      ("y", .obj [("field", .str "a b"), ("type", .str "quantitative")])])]

/-- The aggregate step writes the center and the spread, and none of the two expressions reads
them. -/
theorem blankedYield_bounds :
    ∃ (result : Object) (center spread groupby : Json) (upper lower : String),
      (expandErrorBarWithin .direct blankedYield .default).outcome = .ok result ∧
      result.get? "transform" = some (.arr
        [.obj [("aggregate", .arr [center, spread]), ("groupby", groupby)],
         .obj [("calculate", .str upper), ("as", .str "upper_whisker_a b")],
         .obj [("calculate", .str lower), ("as", .str "lower_whisker_a b")]]) ∧
      center.get? "as" = some (.str "mean_a b") ∧ spread.get? "as" = some (.str "extent_a b") ∧
      readBound isBasicMember upper = none ∧ readBound isBasicMember lower = none :=
  ⟨_, _, _, _, _, _, rfl, rfl, rfl, rfl, by decide, by decide⟩

end LayeredMarks
