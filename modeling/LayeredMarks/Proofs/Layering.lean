import LayeredMarks.Proofs.Endings
import LayeredMarks.Settings.Sources

/-!
# Layers of settings

Settings are built in layers, each laid over the one before.  This file says what comes of a list of
layers: `layered_settings`.  Every setting has the value of the last layer that gives one which can
be accepted, whatever the layers say about other settings.

A value that cannot be accepted changes nothing, but it is named in a complaint before the complaint
is dropped.  That fails for a value which cannot be shown, and then there are no settings at all
(`longPoint_refused`).

## Strategy

* **One setting.**  `change_own` and `change_frame`: a change is a change of one setting and leaves
  the others alone.
* **One layer.**  The settings of a layer are changed one after the other, so that each is what the
  layer gives for it, or what it was (`configure_own`).
* **All layers.**  `foldl_configure` carries such an equation from one layer to any number of them.
* **Failures.**  A value is shown only where it is refused (`isRefused_of_mem_valuesShown`), and the
  first that cannot be shown ends the work (`configureAll_eq`).
-/

namespace LayeredMarks.Settings

/-! ## What a layer gives -/

/-- What a value gives for a member of a vocabulary. -/
def acceptedWord {α : Type} [Vocabulary α] (value : Json) : Option α :=
  (Vocabulary.read value).toOption

/-- What a value gives for a part: null hides it, a boolean and a text say whether it is drawn, and
an object gives it properties. -/
def acceptedPart : Json → Option PartSetting
  | .null => some .hidden
  | .bool draw => some (.ofBool draw)
  | .str text => some (.ofBool (isYes (.str text)))
  | .obj properties => some (.styled properties)
  | _ => none

/-- The value of a layer under a key of its object under `errorbar`. -/
def entryAt (layer : Json) (key : String) : Option Json :=
  (layer.get? "errorbar").bind fun block => block.get? key

section

variable {α : Type} (accept : Json → Option α) (key : String)

/-- What a layer gives for a key, if its value can be accepted. -/
def given? (layer : Json) : Option α := (entryAt layer key).bind accept

/-- What the last layer gives that has a value for the key which can be accepted. -/
def lastGiven (layers : List Json) : Option α := (layers.filterMap (given? accept key)).getLast?

theorem lastGiven_cons (layer : Json) (rest : List Json) :
    lastGiven accept key (layer :: rest) =
      (lastGiven accept key rest).or (given? accept key layer) := by
  unfold lastGiven
  cases hgiven : given? accept key layer with
  | none => simp [hgiven]
  | some value =>
      rw [List.filterMap_cons_some hgiven, List.getLast?_cons]
      cases (rest.filterMap (given? accept key)).getLast? <;> rfl

end

/-! ## One setting -/

section

variable {α β : Type} {layer : Object} {key : String} {read : Json → Except Misfit α}
  {update : Settings → α → Settings}

/-- A setting is changed to what the layer gives for it. -/
theorem change_own (setting : Settings → α) (own : ∀ s value, setting (update s value) = value)
    (settings : Settings) :
    setting (change layer key read update settings) =
      ((layer.get? key).bind fun value => (read value).toOption).getD (setting settings) := by
  unfold change
  cases layer.get? key with
  | none => rfl
  | some value => cases hread : read value <;> simp [hread, own, Except.toOption]

/-- Whatever an update leaves alone is left alone by the change. -/
theorem change_frame (seen : Settings → β) (frame : ∀ s value, seen (update s value) = seen s)
    (settings : Settings) : seen (change layer key read update settings) = seen settings := by
  unfold change
  split
  · exact frame _ _
  · rfl

end

theorem toOption_readPart (value : Json) : (readPart value).toOption = acceptedPart value := by
  cases value <;> rfl

section

variable (layer : Object) (settings : Settings)

theorem get_changePart (part other : Part) :
    (changePart layer settings part).parts.get other =
      if other = part then
        ((layer.get? part.name).bind acceptedPart).getD (settings.parts.get other)
      else settings.parts.get other := by
  split
  · rename_i heq
    rw [heq, ← funext toOption_readPart]
    exact change_own (fun s => s.parts.get part)
      (fun s value => PerPart.get_set_self s.parts part value) settings
  · rename_i hne
    exact change_frame (fun s => s.parts.get other)
      (fun s value => PerPart.get_set_of_ne s.parts value hne) settings

/-- The parts are changed one after the other, and a part that is changed twice is changed once. -/
theorem get_foldl_changePart (parts : List Part) (part : Part) :
    (parts.foldl (changePart layer) settings).parts.get part =
      if part ∈ parts then
        ((layer.get? part.name).bind acceptedPart).getD (settings.parts.get part)
      else settings.parts.get part := by
  induction parts generalizing settings with
  | nil => rfl
  | cons first rest ih =>
      rw [List.foldl_cons, ih, get_changePart]
      by_cases hfirst : part = first
      · subst hfirst
        cases (layer.get? part.name).bind acceptedPart <;> simp
      · simp [hfirst]

theorem foldl_changePart_frame (parts : List Part) :
    (parts.foldl (changePart layer) settings).center = settings.center ∧
      (parts.foldl (changePart layer) settings).extent = settings.extent := by
  induction parts generalizing settings with
  | nil => exact ⟨rfl, rfl⟩
  | cons part rest ih =>
      obtain ⟨hcenter, hextent⟩ := ih (changePart layer settings part)
      rw [List.foldl_cons, hcenter, hextent]
      exact ⟨change_frame center (by intros; rfl) settings,
        change_frame extent (by intros; rfl) settings⟩

/-- The settings with the center of a layer. -/
private def withCenter : Settings :=
  change layer "center" Vocabulary.read (fun s center => { s with center }) settings

/-- The settings with the center and the extent of a layer. -/
private def withWords : Settings :=
  change layer "extent" Vocabulary.read (fun s extent => { s with extent })
    (withCenter layer settings)

private theorem overlay_eq :
    settings.overlay layer = Part.all.foldl (changePart layer) (withWords layer settings) := rfl

theorem center_overlay :
    (settings.overlay layer).center =
      ((layer.get? "center").bind acceptedWord).getD settings.center := by
  calc (settings.overlay layer).center
      = (withWords layer settings).center := by
        rw [overlay_eq, (foldl_changePart_frame layer _ _).1]
    _ = (withCenter layer settings).center := change_frame center (by intros; rfl) _
    _ = _ := change_own center (fun _ _ => rfl) settings

theorem extent_overlay :
    (settings.overlay layer).extent =
      ((layer.get? "extent").bind acceptedWord).getD settings.extent := by
  have hcenter : (withCenter layer settings).extent = settings.extent :=
    change_frame extent (by intros; rfl) settings
  calc (settings.overlay layer).extent
      = (withWords layer settings).extent := by
        rw [overlay_eq, (foldl_changePart_frame layer _ _).2]
    _ = ((layer.get? "extent").bind acceptedWord).getD (withCenter layer settings).extent :=
        change_own extent (fun _ _ => rfl) _
    _ = _ := by rw [hcenter]

theorem get_overlay (part : Part) :
    (settings.overlay layer).parts.get part =
      ((layer.get? part.name).bind acceptedPart).getD (settings.parts.get part) := by
  have hall : part ∈ Part.all := by cases part <;> decide
  have hparts : (withWords layer settings).parts = settings.parts :=
    calc (withWords layer settings).parts
        = (withCenter layer settings).parts := change_frame parts (by intros; rfl) _
      _ = settings.parts := change_frame parts (by intros; rfl) settings
  rw [overlay_eq, get_foldl_changePart, if_pos hall, hparts]

end

/-! ## One layer -/

section

variable (settings : Settings) (layer : Json)

/-- A layer without an object under `errorbar` says nothing, and any other lays that object over the
settings. -/
theorem configure_cases :
    ((∀ key, entryAt layer key = none) ∧ settings.configure layer = settings) ∨
    ∃ block : Object, (∀ key, entryAt layer key = block.get? key) ∧
      settings.configure layer = settings.overlay block := by
  unfold configure entryAt
  cases layer.get? "errorbar" with
  | none => exact Or.inl ⟨fun _ => rfl, rfl⟩
  | some block =>
      cases block with
      | obj fields => exact Or.inr ⟨fields, fun _ => rfl, rfl⟩
      | _ => exact Or.inl ⟨fun _ => rfl, rfl⟩

/-- **One layer.**  A setting that an object changes to what it has under a key, or else leaves as
it was, is changed by a layer in the same way. -/
theorem configure_own {α : Type} (setting : Settings → α) {accept : Json → Option α} {key : String}
    (own : ∀ block s,
      setting (overlay s block) = ((block.get? key).bind accept).getD (setting s)) :
    setting (settings.configure layer) = (given? accept key layer).getD (setting settings) := by
  rcases configure_cases settings layer with ⟨hnone, hsame⟩ | ⟨block, hblock, hoverlay⟩
  · rw [hsame, given?, hnone]
    rfl
  · rw [hoverlay, own, given?, hblock]

theorem center_configure :
    (settings.configure layer).center =
      (given? acceptedWord "center" layer).getD settings.center :=
  configure_own settings layer center center_overlay

theorem extent_configure :
    (settings.configure layer).extent =
      (given? acceptedWord "extent" layer).getD settings.extent :=
  configure_own settings layer extent extent_overlay

theorem get_configure (part : Part) :
    (settings.configure layer).parts.get part =
      (given? acceptedPart part.name layer).getD (settings.parts.get part) :=
  configure_own settings layer (fun s => s.parts.get part) fun block s => get_overlay block s part

end

/-- Settings that agree in all places are the same. -/
theorem eq_of_agree {first second : Settings} (center : first.center = second.center)
    (extent : first.extent = second.extent)
    (parts : ∀ part, first.parts.get part = second.parts.get part) : first = second := by
  obtain ⟨_, _, bar, line, point, ticks, whisker⟩ := first
  obtain ⟨_, _, bar', line', point', ticks', whisker'⟩ := second
  obtain rfl : bar = bar' := parts .bar
  obtain rfl : line = line' := parts .line
  obtain rfl : point = point' := parts .point
  obtain rfl : ticks = ticks' := parts .ticks
  obtain rfl : whisker = whisker' := parts .whisker
  subst center extent
  rfl

private theorem getD_getD_self {α : Type} (given : Option α) (value : α) :
    given.getD (given.getD value) = given.getD value := by
  cases given <;> rfl

/-- Repeating a layer changes nothing. -/
theorem configure_configure_self (settings : Settings) (layer : Json) :
    (settings.configure layer).configure layer = settings.configure layer := by
  apply eq_of_agree
  · rw [center_configure, center_configure, getD_getD_self]
  · rw [extent_configure, extent_configure, getD_getD_self]
  · intro part
    rw [get_configure, get_configure, getD_getD_self]

/-- The layers do not both have a value for the same setting. -/
def KeysDisjoint (first second : Json) : Prop :=
  ∀ key ∈ names, entryAt first key = none ∨ entryAt second key = none

/-- Of two layers that do not both give a value, either may come first. -/
private theorem getD_given?_comm {α : Type} (accept : Json → Option α) {first second : Json}
    {key : String} (h : entryAt first key = none ∨ entryAt second key = none) (value : α) :
    (given? accept key second).getD ((given? accept key first).getD value) =
      (given? accept key first).getD ((given? accept key second).getD value) := by
  rcases h with hnone | hnone <;> simp [given?, hnone]

theorem configure_comm (settings : Settings) {first second : Json}
    (disjoint : KeysDisjoint first second) :
    (settings.configure first).configure second = (settings.configure second).configure first := by
  have hcenter : "center" ∈ names := by decide
  have hextent : "extent" ∈ names := by decide
  have hpart (part : Part) : part.name ∈ names := by cases part <;> decide
  apply eq_of_agree
  · simp only [center_configure]
    exact getD_given?_comm (acceptedWord : Json → Option Center) (disjoint _ hcenter) _
  · simp only [extent_configure]
    exact getD_given?_comm (acceptedWord : Json → Option Extent) (disjoint _ hextent) _
  · intro part
    simp only [get_configure]
    exact getD_given?_comm acceptedPart (disjoint _ (hpart part)) _

/-! ## All layers -/

/-- **All layers.**  A setting that is what a layer gives for it, or what it was, is what the last
of several layers gives. -/
theorem foldl_configure {α : Type} (setting : Settings → α) {accept : Json → Option α}
    {key : String}
    (step : ∀ s layer, setting (s.configure layer) = (given? accept key layer).getD (setting s))
    (layers : List Json) (settings : Settings) :
    setting (layers.foldl configure settings) =
      (lastGiven accept key layers).getD (setting settings) := by
  -- for any settings below: the rest of the layers is laid over those with the first one
  induction layers generalizing settings with
  | nil => rfl
  | cons layer rest ih =>
      rw [List.foldl_cons, ih, step, lastGiven_cons, Option.getD_or]

/-! ## Values that are shown -/

/-- The layer has the value for a setting that cannot accept it. -/
def IsRefused (layer value : Json) : Prop :=
  (∃ key ∈ ["center", "extent"], entryAt layer key = some value ∧
    (acceptedWord value : Option Center) = none ∧ (acceptedWord value : Option Extent) = none) ∨
  ∃ part : Part, entryAt layer part.name = some value ∧ acceptedPart value = none

theorem acceptedWord_of_isShown {α : Type} [Vocabulary α] {value : Json}
    (shown : Vocabulary.isShown value = true) : (acceptedWord value : Option α) = none := by
  cases value with
  | str text => simp [Vocabulary.isShown] at shown
  | _ => rfl

theorem acceptedPart_of_showsPart {value : Json} (shows : showsPart value = true) :
    acceptedPart value = none := by
  cases value with
  | int n => rfl
  | double x => rfl
  | arr items => rfl
  | moment m => rfl
  | _ => simp [showsPart] at shows

theorem isRefused_of_mem_valuesShown {layer value : Json} (h : value ∈ valuesShown layer) :
    IsRefused layer value := by
  unfold valuesShown at h
  split at h
  · rename_i block hblock
    have hentry (key : String) : entryAt layer key = Fields.get? block key := by
      rw [entryAt, hblock]
      rfl
    rcases List.mem_append.mp h with hwords | hparts
    · obtain ⟨key, hkey, hvalue⟩ := List.mem_filterMap.mp hwords
      obtain ⟨hown, shown⟩ := Option.filter_eq_some_iff.mp hvalue
      exact Or.inl ⟨key, hkey, (hentry key).trans hown, acceptedWord_of_isShown shown,
        acceptedWord_of_isShown shown⟩
    · obtain ⟨part, -, hvalue⟩ := List.mem_filterMap.mp hparts
      obtain ⟨hown, shows⟩ := Option.filter_eq_some_iff.mp hvalue
      exact Or.inr ⟨part, (hentry part.name).trans hown, acceptedPart_of_showsPart shows⟩
  · simp at h

/-! ## Layers that can be laid over settings -/

/-- Lays one configuration after the other over the settings. -/
def configureAll (room : Room) (settings : Settings) (layers : List Json) :
    Except Json.WritingFault Settings :=
  layers.foldlM (configureWithin room) settings

/-- Layers are laid over settings until a value cannot be shown. -/
theorem configureAll_eq (room : Room) (settings : Settings) (layers : List Json) :
    configureAll room settings layers =
      match layers.findSome? (configurationFault? room) with
      | some fault => .error fault
      | none => .ok (layers.foldl configure settings) := by
  unfold configureAll
  induction layers generalizing settings with
  | nil => rfl
  | cons layer rest ih =>
      rw [List.foldlM_cons, configureWithin, List.findSome?_cons]
      cases configurationFault? room layer with
      | some fault => rfl
      | none => exact ih (settings.configure layer)

/-- The first value that cannot be shown is that of the first layer with such a value. -/
theorem findSome?_configurationFault? (room : Room) (layers : List Json) :
    layers.findSome? (configurationFault? room) =
      (layers.flatMap valuesShown).findSome? (Json.writingFault? .message (room - 4)) := by
  induction layers with
  | nil => rfl
  | cons layer rest ih =>
      rw [List.findSome?_cons, List.flatMap_cons, List.findSome?_append, ← ih, configurationFault?]
      cases (valuesShown layer).findSome? _ <;> rfl

theorem foldl_of_configureAll {room : Room} {settings loaded : Settings} {layers : List Json}
    (h : configureAll room settings layers = .ok loaded) :
    loaded = layers.foldl configure settings := by
  rw [configureAll_eq] at h
  split at h
  · cases h
  · exact (Except.ok.inj h).symm

theorem configureAll_repeated (room : Room) (settings : Settings) (layer : Json) :
    configureAll room settings [layer, layer] = configureAll room settings [layer] := by
  simp only [configureAll_eq, List.findSome?_cons, List.findSome?_nil, List.foldl_cons,
    List.foldl_nil, configure_configure_self]
  cases configurationFault? room layer <;> rfl

theorem configureAll_comm (room : Room) (settings : Settings) {first second : Json}
    (disjoint : KeysDisjoint first second) :
    (configureAll room settings [first, second]).toOption =
      (configureAll room settings [second, first]).toOption := by
  simp only [configureAll_eq, List.findSome?_cons, List.findSome?_nil, List.foldl_cons,
    List.foldl_nil, configure_comm settings disjoint]
  cases configurationFault? room first <;> cases configurationFault? room second <;> rfl

/-! ## The layers of a run -/

/-- Variables are texts, and a text is never shown. -/
theorem valuesShown_ofVariables (stem : String) (valueOf : String → Option String) :
    valuesShown (ofVariables stem valueOf) = [] := by
  have htext (key : String) (value : Json)
      (h : entryAt (ofVariables stem valueOf) key = some value) : ∃ text, value = .str text := by
    obtain ⟨⟨_, given⟩, hentry, hvalue⟩ := List.mem_filterMap.mp (Fields.mem_of_get? h)
    obtain ⟨name, -, hname⟩ := List.mem_map.mp hentry
    obtain ⟨_, hgiven, hpair⟩ := Option.map_eq_some_iff.mp hvalue
    obtain ⟨-, rfl⟩ := Prod.mk.inj hname
    obtain ⟨-, rfl⟩ := Prod.mk.inj hpair
    obtain ⟨text, -, rfl⟩ := Option.map_eq_some_iff.mp hgiven
    exact ⟨text, rfl⟩
  have hnone (shows : Json → Bool) (hshows : ∀ text, shows (.str text) = false) (key : String) :
      (entryAt (ofVariables stem valueOf) key).filter shows = none := by
    cases hvalue : entryAt (ofVariables stem valueOf) key with
    | none => rfl
    | some value =>
        obtain ⟨text, rfl⟩ := htext key value hvalue
        simp [Option.filter, hshows]
  refine List.append_eq_nil_iff.mpr
    ⟨List.filterMap_eq_nil_iff.mpr ?_, List.filterMap_eq_nil_iff.mpr ?_⟩
  · exact fun key _ => hnone Vocabulary.isShown (fun _ => rfl) key
  · exact fun part _ => hnone showsPart (fun _ => rfl) part.name

theorem configurationFault?_ofVariables (room : Room) (stem : String)
    (valueOf : String → Option String) :
    configurationFault? room (ofVariables stem valueOf) = none := by
  rw [configurationFault?, valuesShown_ofVariables]
  rfl

/-- The settings of a run are those of two layers: the file and the variables. -/
theorem load_eq (room : Room) (around : Surroundings) (path : Option String) :
    load room around path = (fileConfiguration (room - 1) around path).bind fun configuration =>
      (configureAll (room - 2) default
        [configuration, ofVariables defaultStem around.valueOf]).mapError .value := by
  have hroom : room - 1 - 1 = room - 2 := Nat.sub_sub room 1 1
  rw [load, ofFile, hroom]
  cases fileConfiguration (room - 1) around path with
  | error failure => rfl
  | ok configuration =>
      simp only [bind, Except.bind, configureAll_eq, configureWithin, List.findSome?_cons,
        configurationFault?_ofVariables, List.findSome?_nil]
      cases configurationFault? (room - 2) configuration <;> rfl

/-! ## Settings of layers -/

/-- What is expanded with the settings of a run has them from three layers: the file, the variables,
and the configuration in the spec. -/
theorem expand_of_load {room : Room} {around : Surroundings} {path : Option String}
    {loaded : Settings} {configuration : Json} (hload : load room around path = .ok loaded)
    (hfile : fileConfiguration (room - 1) around path = .ok configuration) {fields : Object}
    (hmark : namesErrorBar fields = true) :
    (Registry.initialWithin room).expand fields loaded =
      match configurationFault? (room - 1) (Registry.ownConfiguration fields) with
      | some fault => .fail (.unshown fault)
      | none =>
        expandErrorBarWithin (room - 1) fields
          ([configuration, ofVariables defaultStem around.valueOf,
            Registry.ownConfiguration fields].foldl configure default) := by
  rw [load_eq, hfile] at hload
  obtain ⟨settings, hsettings, rfl⟩ : ∃ settings, configureAll (room - 2) default
      [configuration, ofVariables defaultStem around.valueOf] = .ok settings ∧
        settings = loaded := by
    cases hall : configureAll (room - 2) default
        [configuration, ofVariables defaultStem around.valueOf] with
    | error fault => simp [Except.bind, Except.mapError, hall] at hload
    | ok settings =>
        exact ⟨settings, rfl, by simpa [Except.bind, Except.mapError, hall] using hload⟩
  rw [Registry.expand_of_namesErrorBar hmark, foldl_of_configureAll hsettings]
  rfl

/-- **Layers of settings.**  Each setting has the value of the last layer that gives one which can
be accepted, and the default if there is none.  Only a value that is refused can be in the way: if
it has to be shown and cannot be, there are no settings.  It makes no difference whether a layer is
repeated, or which of two layers comes first that do not speak of the same setting.  The layers of a
run are the configuration of a file, the variables, and the configuration in the spec. -/
theorem layered_settings (room : Room) (layers : List Json) :
    let settings := layers.foldl configure default
    configureAll room default layers =
        (match (layers.flatMap valuesShown).findSome? (Json.writingFault? .message (room - 4)) with
        | some fault => .error fault
        | none => .ok settings) ∧
    (∀ layer ∈ layers, ∀ value ∈ valuesShown layer, IsRefused layer value) ∧
    settings.center = (lastGiven acceptedWord "center" layers).getD .mean ∧
    settings.extent = (lastGiven acceptedWord "extent" layers).getD .stderr ∧
    (∀ part, settings.parts.get part =
      (lastGiven acceptedPart part.name layers).getD (default.parts.get part)) ∧
    (∀ base layer, configureAll room base [layer, layer] = configureAll room base [layer]) ∧
    (∀ base first second, KeysDisjoint first second →
      (configureAll room base [first, second]).toOption =
        (configureAll room base [second, first]).toOption) ∧
    (∀ around path,
      load room around path = (fileConfiguration (room - 1) around path).bind fun configuration =>
        (configureAll (room - 2) default
          [configuration, ofVariables defaultStem around.valueOf]).mapError .value) ∧
    (∀ around path loaded configuration, load room around path = .ok loaded →
      fileConfiguration (room - 1) around path = .ok configuration →
      ∀ fields, namesErrorBar fields = true →
        (Registry.initialWithin room).expand fields loaded =
          match configurationFault? (room - 1) (Registry.ownConfiguration fields) with
          | some fault => .fail (.unshown fault)
          | none =>
            expandErrorBarWithin (room - 1) fields
              ([configuration, ofVariables defaultStem around.valueOf,
                Registry.ownConfiguration fields].foldl configure default)) := by
  intro settings
  refine ⟨?_, fun layer _ value => isRefused_of_mem_valuesShown,
    foldl_configure center center_configure layers default,
    foldl_configure extent extent_configure layers default, ?_, configureAll_repeated room,
    fun base first second => configureAll_comm room base, load_eq room,
    fun around path loaded configuration hload hfile fields => expand_of_load hload hfile⟩
  · rw [configureAll_eq, findSome?_configurationFault?]
  · intro part
    exact foldl_configure (fun s => s.parts.get part) (fun s layer => get_configure s layer part)
      layers default

/-- A configuration with properties for the ticks and two values that cannot be accepted. -/
private def tickedLayer : Json :=
  .obj [("errorbar", .obj
    [("center", .str " Median "), ("extent", .bool true), ("point", .arr []),
     ("ticks", .obj [("size", .int 8)]), ("bar", .str "YES")])]

/-- A configuration that hides the whisker, and does not know the center. -/
private def centeredLayer : Json :=
  .obj [("errorbar", .obj
    [("center", .str "mode"), ("extent", .str "ci"), ("whisker", .null), ("bar", .bool false)])]

/-- A configuration of the line alone. -/
private def linedLayer : Json := .obj [("errorbar", .obj [("line", .bool true)])]

/-- Surroundings without files, and with a variable for the extent. -/
private def variableAround : Surroundings where
  fileAt := fun _ => .error .missing
  canWrite := fun _ => .ok ()
  valueOf := fun name => if name = "COMPOSITEMARK_ERRORBAR_EXTENT" then some "stdev" else none
  input := .ok ""

/-- A spec that asks for the median. -/
private def centeredSpec : Object :=
  [("mark", .str errorBar), ("config", .obj [("errorbar", .obj [("center", .str "median")])])]

theorem tickedLayer_layered :
    (∃ settings, configureAll .direct default [tickedLayer, .null, centeredLayer] = .ok settings ∧
      settings.center = .median ∧ settings.extent = .ci ∧
      settings.parts.get .ticks = .styled [("size", .int 8)] ∧
      settings.parts.get .bar = .hidden ∧ settings.parts.get .point = .shown ∧
      settings.parts.get .whisker = .hidden) ∧
    (configureAll .direct default [tickedLayer, linedLayer]).toOption =
      (configureAll .direct default [linedLayer, tickedLayer]).toOption ∧
    ∃ loaded applied, load .direct variableAround none = .ok loaded ∧
      (Registry.initialWithin .direct).expand centeredSpec loaded =
        expandErrorBarWithin (Room.direct - 1) centeredSpec applied ∧
      applied.center = .median ∧ applied.extent = .stdev := by
  obtain ⟨houtcome, -, hcenter, hextent, hparts, -, -, -, -⟩ :=
    layered_settings .direct [tickedLayer, .null, centeredLayer]
  obtain ⟨-, -, -, -, -, -, hcomm, -, hrun⟩ := layered_settings .direct []
  refine ⟨⟨_, houtcome, hcenter, hextent, hparts .ticks, hparts .bar, hparts .point,
    hparts .whisker⟩, ?_, ?_⟩
  · have hdisjoint : KeysDisjoint tickedLayer linedLayer := by
      unfold KeysDisjoint
      decide
    exact hcomm default tickedLayer linedLayer hdisjoint
  · obtain ⟨loaded, hloaded⟩ : ∃ loaded, load .direct variableAround none = .ok loaded := ⟨_, rfl⟩
    have hexpand := hrun variableAround none loaded .null hloaded rfl centeredSpec rfl
    exact ⟨loaded, _, hloaded, hexpand, rfl, rfl⟩

/-- An integer with too many digits is never shown. -/
theorem writingFault?_of_tooLong {n : Nat} (long : Nat.pow 10 Numeral.maxIntegerDigits ≤ n)
    (use : Json.TextUse) (room : Nat) :
    Json.writingFault? use (room + 1) (.int n) = some .integerTooLong := by
  have htooLong : Numeral.isTooLong n = true := (Numeral.hasMoreDigits_iff (by decide) _).mpr long
  simp only [Json.writingFault?, htooLong, if_true]

/-- A point that is neither shown nor hidden, but an integer with too many digits to be written. -/
private def longPoint : Json :=
  .obj [("errorbar", .obj
    [("bar", .bool true), ("point", .int (Nat.pow 10 Numeral.maxIntegerDigits))])]

/-- The point leaves its setting as it was, but the complaint about it cannot be written: there are
no settings, although the bar has a value that can be accepted. -/
theorem longPoint_refused :
    given? acceptedPart "bar" longPoint = some .shown ∧
      given? acceptedPart "point" longPoint = none ∧
      default.configureWithin .direct longPoint = .error .integerTooLong := by
  have hshown : valuesShown longPoint = [.int (Nat.pow 10 Numeral.maxIntegerDigits)] := rfl
  have hfault : configurationFault? .direct longPoint = some .integerTooLong := by
    rw [configurationFault?, hshown, List.findSome?_singleton]
    exact writingFault?_of_tooLong (Nat.le_refl _) .message 990
  refine ⟨rfl, rfl, ?_⟩
  rw [configureWithin, hfault]

end LayeredMarks.Settings
