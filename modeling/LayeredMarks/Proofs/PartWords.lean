import LayeredMarks.Json.Equality
import LayeredMarks.Proofs.Layering

/-!
# Words for parts

A layer may say by a word whether a part is drawn: `yes`, `on` or `1`, say, or `no`, `off` or `0`,
in any case and with blanks around it.  This file says what a text does to the setting of its part,
whichever of the three sources it stands in: `partText_settles`.

A word for yes shows the part, and a word for no hides it.  A text that is no such word is not
passed over, as a value of any other kind would be that cannot be accepted: it hides the part too,
whatever the part was before (`maybeWhisker_hidden`).

## Strategy

* **One layer.**  `settledBy_configure`: a text is always accepted, and it shows its part exactly
  when it is a word for yes.
* **Three sources.**  A configuration is one layer, the settings of a file are those of one layer
  over the defaults (`ofFile`), and so is what the variables lay over others: there is a text in
  that layer for every variable that is not empty (`entryAt_ofVariables`).
-/

namespace LayeredMarks.Settings

/-! ## Texts -/

/-- The words that show a part. -/
def showingWords : List String := ["1", "true", "t", "yes", "y", "on"]

/-- The words that hide a part. -/
def hidingWords : List String := ["0", "false", "f", "no", "n", "off"]

/-- The word in a text: in small letters, and without the blanks around it. -/
def wordIn (text : String) : String := Text.lowerCase (Text.trim text)

/-- What a text does to the setting of a part: a word for yes shows the part, a word for no hides
it, and so does any other text, which leaves the setting as it was only where the part was hidden
before. -/
structure SettledBy (text : String) (before after : PartSetting) : Prop where
  shown : wordIn text ∈ showingWords → after = .shown
  hidden : wordIn text ∈ hidingWords → after = .hidden
  other : wordIn text ∉ showingWords → wordIn text ∉ hidingWords →
    after = .hidden ∧ (after = before ↔ before = .hidden)

/-! ## One layer -/

theorem acceptedPart_str (text : String) :
    acceptedPart (.str text) =
      some (if wordIn text ∈ showingWords then .shown else .hidden) := by
  have hyes : isYes (.str text) = true ↔ wordIn text ∈ showingWords := by
    simp only [isYes, decide_eq_true_eq, wordIn, showingWords]
  rw [acceptedPart, PartSetting.ofBool]
  simp only [hyes]

/-- No word is one for yes and one for no. -/
private theorem notMem_showingWords {word : String} (h : word ∈ hidingWords) :
    word ∉ showingWords := by
  revert word
  decide

section

variable {layer : Json} {part : Part} {text : String}

/-- **One layer.**  A text settles its part. -/
theorem settledBy_configure (h : entryAt layer part.name = some (.str text)) (base : Settings) :
    SettledBy text (base.parts.get part) ((base.configure layer).parts.get part) := by
  have hafter : (base.configure layer).parts.get part =
      if wordIn text ∈ showingWords then .shown else .hidden := by
    rw [get_configure, given?, h, Option.bind_some, acceptedPart_str, Option.getD_some]
  constructor
  · intro hyes
    rw [hafter, if_pos hyes]
  · intro hno
    rw [hafter, if_neg (notMem_showingWords hno)]
  · intro hyes _
    have hhidden : (base.configure layer).parts.get part = .hidden := by rw [hafter, if_neg hyes]
    exact ⟨hhidden, by rw [hhidden, eq_comm]⟩

/-- The outcome of laying a layer over settings in which the part was set as before: there are
settings in which the text has settled the part, unless a value of the layer cannot be shown. -/
def Settles (room : Room) (layer : Json) (part : Part) (text : String) (before : PartSetting)
    (outcome : Except Json.WritingFault Settings) : Prop :=
  match configurationFault? room layer with
  | some fault => outcome = .error fault
  | none => ∃ settings, outcome = .ok settings ∧
      SettledBy text before (settings.parts.get part)

theorem settles_configureWithin (h : entryAt layer part.name = some (.str text)) (room : Room)
    (base : Settings) :
    Settles room layer part text (base.parts.get part) (base.configureWithin room layer) := by
  unfold Settles configureWithin
  cases configurationFault? room layer with
  | some fault => rfl
  | none => exact ⟨_, rfl, settledBy_configure h base⟩

end

/-! ## Variables -/

/-- The layer of an environment holds a text for every variable of a setting that is not empty. -/
theorem entryAt_ofVariables (stem : String) (valueOf : String → Option String) {name : String}
    (h : name ∈ names) :
    entryAt (ofVariables stem valueOf) name =
      ((valueOf (variableName stem name)).filter (· ≠ "")).map .str := by
  let entry (name : String) : String × Option Json :=
    (name, ((valueOf (variableName stem name)).filter (· ≠ "")).map .str)
  have hkeys : Fields.keys (names.map entry) = names := by
    simp [Fields.keys, entry, Function.comp_def]
  have hdistinct : (Fields.keys (names.map entry)).Nodup := by
    rw [hkeys]
    decide
  calc entryAt (ofVariables stem valueOf) name
      = Fields.get? (Fields.ofOptions (names.map entry)) name := rfl
    _ = (Fields.get? (names.map entry) name).join := Fields.get?_ofOptions hdistinct name
    _ = _ := by rw [Fields.get?_of_mem hdistinct (List.mem_map_of_mem h), Option.join_some]

/-! ## Three sources -/

/-- **Words for parts.**  A text settles its part in the settings of a configuration over any
others, in those of a file over the defaults, and in those of the variables over any others, where
an empty variable says nothing. -/
theorem partText_settles (room : Room) (part : Part) (text : String) :
    (∀ (base : Settings) layer, entryAt layer part.name = some (.str text) →
      Settles room layer part text (base.parts.get part) (base.configureWithin room layer)) ∧
    (∀ around path configuration, fileConfiguration room around path = .ok configuration →
      entryAt configuration part.name = some (.str text) →
      ∃ outcome, ofFile room around path = outcome.mapError .value ∧
        Settles (room - 1) configuration part text (default.parts.get part) outcome) ∧
    (∀ (base : Settings) around stem,
      around.valueOf (variableName stem part.name) = some text → text ≠ "" →
      SettledBy text (base.parts.get part) ((base.withVariables around stem).parts.get part)) := by
  refine ⟨fun base layer h => settles_configureWithin h room base, ?_, ?_⟩
  · intro around path configuration hfile h
    refine ⟨default.configureWithin (room - 1) configuration, ?_,
      settles_configureWithin h (room - 1) default⟩
    rw [ofFile, hfile]
    rfl
  · intro base around stem hvariable hne
    have hname : part.name ∈ names := by cases part <;> decide
    have hentry : entryAt (ofVariables stem around.valueOf) part.name = some (.str text) := by
      rw [entryAt_ofVariables stem around.valueOf hname, hvariable]
      simp [Option.filter, hne]
    exact settledBy_configure hentry base

/-- Surroundings with a file `c` that shows the line and holds a day besides, and a variable that
hides the whisker. -/
private def wordyAround : Surroundings where
  fileAt := fun path =>
    if path = "c" then .ok "on = 2024-01-01\nerrorbar.line = ' Yes '" else .error .missing
  canWrite := fun _ => .ok ()
  valueOf := fun name => if name = "COMPOSITEMARK_ERRORBAR_WHISKER" then some "off" else none
  input := .ok ""

/-- A configuration that shows the bar by a word, and says nothing that can be read of the point. -/
private def wordyLayer : Json :=
  .obj [("errorbar", .obj [("bar", .str "T"), ("point", .double (Double.ofDecimal false 15 (-1)))])]

theorem wordyLayer_settles :
    (∃ settings, default.configureWithin .direct wordyLayer = .ok settings ∧
      settings.parts.get .bar = .shown) ∧
    (∃ settings, ofFile .direct wordyAround (some "c") = .ok settings ∧
      settings.parts.get .line = .shown) ∧
    (default.withVariables wordyAround defaultStem).parts.get .whisker = .hidden := by
  refine ⟨?_, ?_, ?_⟩
  · obtain ⟨settings, hsettings, hbar⟩ :=
      (partText_settles .direct .bar "T").1 default wordyLayer rfl
    exact ⟨settings, hsettings, hbar.shown (by decide)⟩
  · have hfile : fileConfiguration .direct wordyAround (some "c") =
        .ok (.obj [("on", .moment (.date ⟨2024, 1, 1⟩)),
          ("errorbar", .obj [("line", .str " Yes ")])]) := by decide +kernel
    obtain ⟨outcome, hofFile, settings, rfl, hline⟩ :=
      (partText_settles .direct .line " Yes ").2.1 wordyAround (some "c") _ hfile rfl
    exact ⟨settings, hofFile, hline.shown (by decide)⟩
  · have hwhisker := (partText_settles .direct .whisker "off").2.2 default wordyAround defaultStem
      (by decide) (by decide)
    exact hwhisker.hidden (by decide)

/-- A configuration with a text for the whisker that is no word for yes or no. -/
private def maybeWhisker : Json := .obj [("errorbar", .obj [("whisker", .str "maybe")])]

/-- The text cannot be read as yes or no, and yet the whisker, which was shown, is hidden. -/
theorem maybeWhisker_hidden :
    entryAt maybeWhisker "whisker" = some (.str "maybe") ∧
    wordIn "maybe" ∉ showingWords ++ hidingWords ∧
    default.parts.get .whisker = .shown ∧
    ∃ settings, default.configureWithin .direct maybeWhisker = .ok settings ∧
      settings.parts.get .whisker = .hidden := by
  have hentry : entryAt maybeWhisker Part.whisker.name = some (.str "maybe") := rfl
  have hsettled := settledBy_configure hentry default
  exact ⟨hentry, by decide, rfl, _, rfl, (hsettled.other (by decide) (by decide)).1⟩

end LayeredMarks.Settings
