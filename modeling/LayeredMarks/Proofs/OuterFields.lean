import LayeredMarks.Proofs.Dataflow

/-!
# What is handed through

An expansion takes up four fields of a spec: the mark, the encoding, the selection and the
projection.  It writes two of its own: the transform and the layers.  Every other field is handed
through as it is (`Registry.expand_outer`).  As no mark is left, the result is no spec that could be
expanded once more.

The transform is written, but the steps of the spec's own transform are kept before those of the
summary (`expand_ownSteps`).  They are whatever the value under `transform` has for entries, so that
an object gives its keys and a text its characters (`keyedTransform_steps`).

## Strategy

* **The result as a list.**  The two fields are written into the outer fields, and a write is not
  seen by a filter that drops its name (`Fields.filter_put_of_false`).  Hence the rest of the result
  is the rest of the spec, in its order: `filter_layered`.
* **The own transform.**  `transformEntries_eq` says which values have entries, and
  `ownSteps_of_transformEntries` says what they are for each kind of value.
-/

namespace LayeredMarks

/-! ## The fields of a layered spec -/

/-- The fields that an expansion writes. -/
def writtenNames : List String := ["transform", "layer"]

namespace UnitSpec

variable (spec : UnitSpec) (settings : Settings) (summary : Summary) (own : List Json)

/-- Besides what is written, a layered spec lists the outer fields in their order. -/
theorem filter_layered :
    (spec.layered settings summary own).filter (fun entry => entry.1 ∉ writtenNames) =
      spec.outer.filter fun entry => entry.1 ∉ writtenNames := by
  have hput (fields : Object) {name : String} (value : Json) (h : name ∈ writtenNames) :
      (fields.put name value).filter (fun entry => entry.1 ∉ writtenNames) =
        fields.filter fun entry => entry.1 ∉ writtenNames :=
    Fields.filter_put_of_false (p := fun name => decide (name ∉ writtenNames)) fields value
      (by simpa using h)
  rw [layered, hput _ _ (by decide), hput _ _ (by decide), passedOn, Fields.erase,
    List.filter_filter]
  apply List.filter_congr
  intro entry _
  by_cases hname : entry.1 = "transform" <;> simp [hname, writtenNames]

theorem get?_layered_of_notMem {name : String} (h : name ∉ writtenNames) :
    (spec.layered settings summary own).get? name = spec.outer.get? name := by
  simp only [writtenNames, List.mem_cons, List.not_mem_nil, or_false, not_or] at h
  obtain ⟨htransform, hlayer⟩ := h
  rw [layered, Fields.get?_put_of_ne _ _ hlayer, Fields.get?_put_of_ne _ _ htransform, passedOn,
    Fields.get?_erase_of_ne _ htransform]

theorem mem_keys_layered {name : String} :
    name ∈ (spec.layered settings summary own).keys ↔
      name ∈ writtenNames ∨ name ∈ spec.outer.keys := by
  rw [layered, Fields.mem_keys_put, Fields.mem_keys_put, passedOn, Fields.mem_keys_erase]
  simp only [writtenNames, List.mem_cons, List.not_mem_nil, or_false]
  tauto

theorem nodup_keys_layered (distinct : spec.outer.keys.Nodup) :
    (spec.layered settings summary own).keys.Nodup :=
  Fields.nodup_keys_put _ _ (Fields.nodup_keys_put _ _ (Fields.nodup_keys_filter _ distinct))

/-- The outer fields of a spec are those of its object that are not taken up. -/
theorem mem_keys_outer_of_read {fields : Object} {spec : UnitSpec}
    (h : UnitSpec.read fields = .ok spec) {name : String} :
    name ∈ spec.outer.keys ↔ name ∈ fields.keys ∧ name ∉ absorbedNames := by
  obtain ⟨-, -, -, -, houter⟩ := UnitSpec.read_eq_ok.mp h
  rw [← houter]
  simpa using Fields.mem_keys_filter fields fun name => name ∉ absorbedNames

end UnitSpec

/-! ## The registry -/

namespace Registry

/-- What the registry expands has the mark of an error bar, and the result is the layered spec
around its summary. -/
theorem expand_eq_layered {room : Room} {fields : Object} {settings : Settings} {result : Object}
    (expanded : ((initialWithin room).expand fields settings).outcome = .ok result) :
    ∃ spec summary own, UnitSpec.read fields = .ok spec ∧
      result =
        spec.layered (settings.configure ((fields.get? "config").getD .null)) summary own := by
  obtain ⟨-, hexpand⟩ := expand_eq_ok expanded
  rw [hexpand] at expanded
  obtain ⟨spec, hread, -, hexpanded⟩ := expandErrorBarWithin_eq_ok expanded
  obtain ⟨summary, own, -, -, hresult⟩ := UnitSpec.expandWithin_eq_ok hexpanded
  exact ⟨spec, summary, own, hread, hresult⟩

/-- A spec without a mark is expanded by no registry. -/
theorem expand_of_markless {fields : Object} (h : "mark" ∉ fields.keys) (registry : Registry)
    (settings : Settings) :
    registry.expand fields settings = .fail (.spec (.noMarkType .null)) := by
  have htype : typeValue fields = .null := by
    rw [typeValue, Fields.get?_eq_none_of_notMem h]
    rfl
  rw [expand, markType, htype]
  rfl

/-- **What is handed through.**  The result of an expansion has a transform and layers, and all
fields of the spec that are not taken up, in their order and with their values.  It has no mark, so
that every registry refuses it. -/
theorem expand_outer {room : Room} {fields : Object} {settings : Settings} {result : Object}
    (expanded : ((initialWithin room).expand fields settings).outcome = .ok result) :
    (∀ name, name ∈ result.keys ↔
      name ∈ writtenNames ∨ name ∈ fields.keys ∧ name ∉ UnitSpec.absorbedNames) ∧
    (∀ name, name ∉ writtenNames → name ∉ UnitSpec.absorbedNames →
      result.get? name = fields.get? name) ∧
    result.filter (fun entry => entry.1 ∉ writtenNames) =
      fields.filter (fun entry => entry.1 ∉ UnitSpec.absorbedNames ∧ entry.1 ∉ writtenNames) ∧
    (fields.keys.Nodup → result.keys.Nodup) ∧
    ∀ (registry : Registry) (again : Settings),
      registry.expand result again = .fail (.spec (.noMarkType .null)) := by
  obtain ⟨spec, summary, own, hread, rfl⟩ := expand_eq_layered expanded
  have hkeys (name : String) :
      name ∈ (spec.layered (settings.configure ((fields.get? "config").getD .null))
          summary own).keys ↔
        name ∈ writtenNames ∨ name ∈ fields.keys ∧ name ∉ UnitSpec.absorbedNames := by
    rw [UnitSpec.mem_keys_layered, UnitSpec.mem_keys_outer_of_read hread]
  obtain ⟨-, -, -, -, houter⟩ := UnitSpec.read_eq_ok.mp hread
  refine ⟨hkeys, fun name hwritten habsorbed => ?_, ?_, fun hdistinct => ?_, ?_⟩
  · rw [UnitSpec.get?_layered_of_notMem _ _ _ _ hwritten]
    exact UnitSpec.outer_get?_of_read hread habsorbed
  · rw [UnitSpec.filter_layered, ← houter, List.filter_filter]
    exact List.filter_congr fun entry _ => by simp [and_comm]
  · apply UnitSpec.nodup_keys_layered
    rw [← houter]
    exact Fields.nodup_keys_filter _ hdistinct
  · exact expand_of_markless (by simp [hkeys, writtenNames, UnitSpec.absorbedNames])

end Registry

/-- A yield that is filtered first, with a title that is null and settings of its own. -/
private def filteredYield : Object :=
  [("title", .null),
   ("transform", .arr [.obj [("filter", .str "datum.year == 1931")]]),
   ("mark", .str errorBar),
   ("config", .obj [("errorbar", .obj [("center", .str "median")])]),
   ("projection", .obj [("type", .str "mercator")]),
   ("encoding", .obj
     [("x", .obj [("field", .str "yield"), ("type", .str "quantitative")]),
      ("y", .obj [("field", .str "variety"), ("type", .str "nominal")])])]

theorem filteredYield_outer :
    ∃ result, ((Registry.initialWithin .direct).expand filteredYield .default).outcome =
        .ok result ∧
      result.get? "title" = some .null ∧ "projection" ∉ result.keys ∧ result.keys.Nodup ∧
      (Registry.initialWithin .direct).expand result .default =
        .fail (.spec (.noMarkType .null)) := by
  obtain ⟨result, hresult⟩ : ∃ result,
      ((Registry.initialWithin .direct).expand filteredYield .default).outcome = .ok result :=
    ⟨_, rfl⟩
  obtain ⟨hkeys, hvalues, -, hdistinct, hrefused⟩ := Registry.expand_outer hresult
  refine ⟨result, hresult, ?_, ?_, hdistinct (by decide), hrefused _ _⟩
  · exact (hvalues "title" (by decide) (by decide)).trans rfl
  · rw [hkeys]
    decide

/-! ## The spec's own transform -/

/-- The steps that come first, by what stands under the transform of a spec.  Those of a list are
its items, but an object has its keys for steps and a text its characters; what is not given has
none. -/
inductive OwnSteps : Option Json → List Json → Prop where
  | absent : OwnSteps none []
  | null : OwnSteps (some .null) []
  | items (steps : List Json) : OwnSteps (some (.arr steps)) steps
  | keys (fields : Object) : OwnSteps (some (.obj fields)) (fields.keys.map .str)
  | characters (text : String) :
      OwnSteps (some (.str text)) (text.toList.map fun c => .str (String.singleton c))
  | no : OwnSteps (some (.bool false)) []
  | zero : OwnSteps (some (.int 0)) []
  | floatZero (x : Double) (zero : x.isZero = true) : OwnSteps (some (.double x)) []

theorem ownSteps_of_transformEntries {value : Option Json} {own : List Json}
    (h : transformEntries (value.getD .null) = .ok own) : OwnSteps value own := by
  rw [transformEntries_eq] at h
  cases hstray : (value.getD .null).isStray with
  | true => simp [hstray] at h
  | false =>
      obtain rfl : (value.getD .null).entries?.getD [] = own := by simpa [hstray] using h
      rcases value with _ | value
      · exact .absent
      -- of the values without entries, only those that are not given are left
      cases value with
      | null => exact .null
      | bool b =>
          obtain rfl : b = false := hstray
          exact .no
      | int n =>
          obtain rfl : n = 0 := by simpa [Json.isStray] using hstray
          exact .zero
      | double x => exact .floatZero x (by simpa [Json.isStray] using hstray)
      | moment m => simp [Json.isStray] at hstray
      | str text => exact .characters text
      | arr steps => exact .items steps
      | obj fields => exact .keys fields

/-- **The own transform comes first.**  The transform of a result lists the own steps of the spec
and then, entry by entry, the steps of its summary. -/
theorem expand_ownSteps {room : Room} {fields : Object} {settings : Settings} {result : Object}
    (expanded : (expandErrorBarWithin room fields settings).outcome = .ok result) :
    ∃ spec summary own, UnitSpec.read fields = .ok spec ∧
      (spec.expandedSummary settings).outcome = .ok summary ∧
      OwnSteps (fields.get? "transform") own ∧
      result.get? "transform" =
        some (.arr (own ++ summary.steps.map fun step => .obj step.toObject)) := by
  obtain ⟨spec, hread, -, hexpanded⟩ := expandErrorBarWithin_eq_ok expanded
  obtain ⟨summary, own, hsummary, hown, hresult⟩ := UnitSpec.expandWithin_eq_ok hexpanded
  rw [UnitSpec.outer_get?_of_read hread (by decide)] at hown
  refine ⟨spec, summary, own, hread, hsummary, ownSteps_of_transformEntries hown, ?_⟩
  rw [hresult, UnitSpec.get?_transform_layered, Summary.pipeline_steps]

theorem filteredYield_ownSteps :
    ∃ result synthesized,
      (expandErrorBarWithin .direct filteredYield .default).outcome = .ok result ∧
      result.get? "transform" =
        some (.arr (.obj [("filter", .str "datum.year == 1931")] :: synthesized)) := by
  obtain ⟨result, hresult⟩ :
      ∃ result, (expandErrorBarWithin .direct filteredYield .default).outcome = .ok result :=
    ⟨_, rfl⟩
  obtain ⟨spec, summary, own, -, -, hown, htransform⟩ := expand_ownSteps hresult
  cases hown
  exact ⟨result, _, hresult, htransform⟩

/-- The yield with a transform that is one step, and not a list of steps. -/
private def keyedTransform : Object :=
  filteredYield.put "transform" (.obj [("filter", .str "datum.year == 1931")])

/-- The key of the step is handed through as a step, in front of the three that are synthesized. -/
theorem keyedTransform_steps :
    ∃ result aggregate upper lower,
      (expandErrorBarWithin .direct keyedTransform .default).outcome = .ok result ∧
      result.get? "transform" =
        some (.arr [.str "filter", .obj aggregate, .obj upper, .obj lower]) :=
  ⟨_, _, _, _, rfl, rfl⟩

end LayeredMarks
