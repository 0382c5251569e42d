import LayeredMarks.Expansion.Nesting
import LayeredMarks.Json.Reader
import LayeredMarks.Proofs.Parsed

/-!
# Specs in JSON texts

A value has no text where it is nested too deep, or where an integer has too many digits.  Whoever
reads a JSON text has the same limits: a container is only opened where there is room for it, and
an integer with so many digits is refused.  So a spec that has been read from a text can be shown
wherever its expansion shows it, if it is expanded in the room in which it was read.

Main statements: `Json.hasText_of_read`, for values, and for specs `UnitSpec.isShown_of_text` with
`UnitSpec.IsShown.aggregateFault?_eq_none` and `UnitSpec.IsShown.namingFault?_eq_none`.

## Strategy

* **Values.**  What has a text in a room has parts that have texts in the room that is left
  (`hasText_arr`, `hasText_obj`, `HasText.get?`), and more room does no harm (`HasText.mono`).
* **The machine.**  `ReadState.IsShown` says of a state that all values in its open containers have
  texts.  A step keeps that (`isShown_step?`), hence so does a run (`hasText_of_readTokens`).
* **Specs.**  What an expansion shows is so many containers deep in the spec.
-/

namespace LayeredMarks

/-! ## Values that can be shown -/

namespace Json

/-- The value can be shown in a given room. -/
def HasText (room : Room) (value : Json) : Prop := value.writingFault? .message room = none

theorem hasText_arr {room : Room} {items : List Json} :
    HasText (room + 1) (.arr items) ↔ ∀ item ∈ items, HasText room item := by
  rw [HasText, writingFault?, writingFaultOfItems?_eq, List.findSome?_eq_none_iff]
  rfl

theorem hasText_obj {room : Room} {fields : Object} :
    HasText (room + 1) (.obj fields) ↔ ∀ entry ∈ fields, HasText room entry.2 := by
  rw [HasText, writingFault?, writingFaultOfFields?_eq, List.findSome?_eq_none_iff]
  rfl

theorem not_hasText_zero (value : Json) : ¬HasText 0 value := by
  simp [HasText, writingFault?]

/-- More room does no harm. -/
theorem HasText.mono {room more : Nat} (le : room ≤ more) {value : Json} (h : HasText room value) :
    HasText more value := by
  -- on the room, since every container inside the value takes one step of it
  induction room generalizing more value with
  | zero => exact absurd h (not_hasText_zero _)
  | succ room ih =>
      obtain ⟨more, rfl⟩ : ∃ n, more = n + 1 := ⟨more - 1, by omega⟩
      have hle : room ≤ more := by omega
      cases value with
      | arr items => exact hasText_arr.mpr fun item hitem => ih hle (hasText_arr.mp h item hitem)
      | obj fields =>
          exact hasText_obj.mpr fun entry hentry => ih hle (hasText_obj.mp h entry hentry)
      | int n => simpa only [HasText, writingFault?] using h
      | _ => rfl

theorem HasText.item {room : Room} {items : List Json} (h : HasText room (.arr items))
    {item : Json} (hitem : item ∈ items) : HasText (room - 1) item := by
  cases room with
  | zero => exact absurd h (not_hasText_zero _)
  | succ room => exact hasText_arr.mp h item hitem

theorem HasText.entry {room : Room} {fields : Object} (h : HasText room (.obj fields))
    {entry : String × Json} (hentry : entry ∈ fields) : HasText (room - 1) entry.2 := by
  cases room with
  | zero => exact absurd h (not_hasText_zero _)
  | succ room => exact hasText_obj.mp h entry hentry

theorem HasText.get? {room : Room} {fields : Object} (h : HasText room (.obj fields))
    {key : String} {value : Json} (hvalue : fields.get? key = some value) :
    HasText (room - 1) value :=
  h.entry (Fields.mem_of_get? hvalue)

end Json

/-! ## Integers in a text -/

namespace Numeral

theorem natValue_lt {digits : List Char} (h : ∀ c ∈ digits, c.isDigit = true) :
    natValue digits < Nat.pow 10 digits.length := by
  have hfold (n : Nat) : digits.foldl (fun n c => 10 * n + (c.toNat - '0'.toNat)) n <
      (n + 1) * Nat.pow 10 digits.length := by
    induction digits generalizing n with
    | nil => simp
    | cons c rest ih =>
        have hrest := ih (fun d hd => h d (List.mem_cons_of_mem _ hd))
          (10 * n + (c.toNat - '0'.toNat))
        have hdigit : c.toNat ≤ '9'.toNat := by
          have hc := h c (List.mem_cons_self ..)
          simp only [Char.isDigit, Bool.and_eq_true, decide_eq_true_eq] at hc
          exact hc.2
        have hstep : 10 * n + (c.toNat - '0'.toNat) + 1 ≤ (n + 1) * 10 := by
          simp only [Char.reduceToNat] at hdigit ⊢
          omega
        calc (c :: rest).foldl (fun n c => 10 * n + (c.toNat - '0'.toNat)) n
            < (10 * n + (c.toNat - '0'.toNat) + 1) * Nat.pow 10 rest.length := hrest
          _ ≤ (n + 1) * 10 * Nat.pow 10 rest.length := Nat.mul_le_mul_right _ hstep
          _ = (n + 1) * Nat.pow 10 (c :: rest).length := by
              have hsucc : Nat.pow 10 (rest.length + 1) = Nat.pow 10 rest.length * 10 := rfl
              rw [List.length_cons, hsucc, Nat.mul_assoc, Nat.mul_comm 10]
  simpa [natValue] using hfold 0

/-- A number with so few digits that they are read is not too long to be written. -/
theorem isTooLong_of_digits {digits : List Char} (h : ∀ c ∈ digits, c.isDigit = true)
    (few : digits.length ≤ maxIntegerDigits) {n : Int} (hn : n.natAbs = natValue digits) :
    isTooLong n = false := by
  have hpow {k m : Nat} (le : k ≤ m) : Nat.pow 10 k ≤ Nat.pow 10 m :=
    Nat.pow_le_pow_right (by decide) le
  have hmost := hpow few
  have hlt := natValue_lt h
  rw [isTooLong, hn, ← Bool.not_eq_true, hasMoreDigits_iff (by decide)]
  omega

end Numeral

namespace Json

/-- The value of a token can be shown in any room. -/
def Token.IsShown : Token → Prop
  | .plain value => ∀ room, HasText (room + 1) value
  | _ => True

theorem isDigit_of_mem_spanWhole {text : List Char} {c : Char} (h : c ∈ (spanWhole text).1) :
    c.isDigit = true := by
  unfold spanWhole at h
  split at h
  · obtain rfl := List.mem_singleton.mp h
    rfl
  · exact List.all_eq_true.mp List.all_takeWhile c h

theorem isShown_integerToken (text : List Char) (negative : Bool) {digits : List Char}
    (h : ∀ c ∈ digits, c.isDigit = true) : (integerToken text negative digits).IsShown := by
  unfold integerToken
  split
  · trivial
  · rename_i few
    intro room
    have hshort : Numeral.isTooLong (if negative then -(Numeral.natValue digits : Int)
        else Numeral.natValue digits) = false :=
      Numeral.isTooLong_of_digits h (by omega) (by cases negative <;> simp)
    simp only [HasText, writingFault?, hshort, Bool.false_eq_true, if_false]

theorem isShown_scanNumber? {text : List Char} {found : Token × List Char}
    (h : scanNumber? text = some found) : found.1.IsShown := by
  simp only [scanNumber?] at h
  split at h
  · cases h
  · split at h
    · cases h
      exact isShown_integerToken _ _ fun c => isDigit_of_mem_spanWhole
    · cases h
      exact fun room => rfl

theorem isShown_scanWord? {text : List Char} {found : Token × List Char}
    (h : scanWord? text = some found) : found.1.IsShown := by
  obtain ⟨⟨word, value⟩, hmem, hentry⟩ := List.exists_of_findSome?_eq_some h
  have hvalue : ∀ room, HasText (room + 1) value := by
    simp only [words, List.mem_cons, Prod.mk.injEq, List.not_mem_nil, or_false] at hmem
    rcases hmem with ⟨-, rfl⟩ | ⟨-, rfl⟩ | ⟨-, rfl⟩ | ⟨-, rfl⟩ | ⟨-, rfl⟩ | ⟨-, rfl⟩ <;>
      exact fun room => rfl
  dsimp only at hentry
  split at hentry
  · cases hentry
    exact hvalue
  · cases hentry

theorem isShown_token (c : Char) (rest : List Char) : (token c rest).1.IsShown := by
  unfold token
  split
  case h_7 => split <;> trivial
  case h_8 =>
    split
    · rename_i hword
      exact isShown_scanWord? hword
    · cases hnumber : scanNumber? (c :: rest) with
      | none => trivial
      | some found => exact isShown_scanNumber? hnumber
  all_goals trivial

/-- What holds of every token that can be read holds of all tokens of a text. -/
theorem forall_mem_tokens {P : Token → Prop} (h : ∀ c rest, P (token c rest).1)
    (text : List Char) : ∀ entry ∈ tokens text, P entry.1 := by
  fun_induction tokens text with
  | case1 => simp
  | case2 c rest _ ih => exact ih
  | case3 c rest _ ih =>
      rw [List.forall_mem_cons]
      exact ⟨h c rest, ih⟩

/-! ## The machine -/

/-- The values that a container holds so far. -/
def Level.values : Level → List Json
  | .items done => done
  | .fields done _ => done.map Prod.snd

/-- All values in open containers can be shown in the room that is left there, and no container is
opened without room for it. -/
def LevelsShown (limit : Room) : List Level → Prop
  | [] => True
  | level :: outer =>
    outer.length < limit ∧ (∀ value ∈ level.values, HasText (limit - outer.length) value) ∧
      LevelsShown limit outer

/-- The containers that are open, the one that is being read among them. -/
def ReadState.opened (state : ReadState) : List Level :=
  match state.expected with
  | .value | .nothing _ => state.levels
  | .valueOrEnd => .items [] :: state.levels
  | .nameOrEnd => .fields [] "" :: state.levels
  | .name done | .colon done _ => .fields done "" :: state.levels
  | .commaOrEnd level => level :: state.levels

/-- **The invariant of the machine.**  All values that have been read can be shown. -/
def ReadState.IsShown (limit : Room) (state : ReadState) : Prop :=
  LevelsShown limit state.opened ∧ ∀ result, state.expected = .nothing result →
    HasText (limit + 1) result

section

variable {limit : Nat}

theorem isShown_deliver {levels : List Level} {value : Json} (hlevels : LevelsShown limit levels)
    (hvalue : HasText (limit - levels.length + 1) value) :
    (ReadState.deliver value levels).IsShown limit := by
  cases levels with
  | nil => exact ⟨trivial, fun result h => by cases h; exact hvalue⟩
  | cons level outer =>
      obtain ⟨hroom, hlevel, houter⟩ := hlevels
      have hleft : limit - (level :: outer).length + 1 = limit - outer.length := by
        rw [List.length_cons]
        omega
      rw [hleft] at hvalue
      cases level with
      | items done =>
          refine ⟨⟨hroom, ?_, houter⟩, fun result h => by cases h⟩
          exact List.forall_mem_cons.mpr ⟨hvalue, hlevel⟩
      | fields done key =>
          refine ⟨⟨hroom, ?_, houter⟩, fun result h => by cases h⟩
          intro other hother
          obtain ⟨entry, hentry, rfl⟩ := List.mem_map.mp hother
          rcases Fields.mem_put hentry with rfl | hdone
          · exact hvalue
          · exact hlevel _ (List.mem_map_of_mem hdone)

theorem isShown_startValue? {levels : List Level} {next : Token} {state : ReadState}
    (h : ReadState.startValue? levels next = some state) (hlevels : LevelsShown limit levels)
    (hnext : next.IsShown) (fits : nestingFault? limit next state.levels.length = none) :
    state.IsShown limit := by
  unfold ReadState.startValue? at h
  -- a bracket opens a container, for which there is room; a value is handed on
  split at h
  · cases h
    have hroom : levels.length < limit := by simpa [nestingFault?] using fits
    exact ⟨⟨hroom, by simp [Level.values], hlevels⟩, fun result h => by cases h⟩
  · cases h
    have hroom : levels.length < limit := by simpa [nestingFault?] using fits
    exact ⟨⟨hroom, by simp [Level.values], hlevels⟩, fun result h => by cases h⟩
  · cases h
    exact isShown_deliver hlevels rfl
  · cases h
    exact isShown_deliver hlevels (hnext _)
  · cases h

/-- **One step.**  It leaves values that can be shown. -/
theorem isShown_step? {state next : ReadState} {token : Token} (h : state.step? token = some next)
    (hstate : state.IsShown limit) (htoken : token.IsShown)
    (fits : nestingFault? limit token next.levels.length = none) : next.IsShown limit := by
  obtain ⟨expected, levels⟩ := state
  obtain ⟨hopened, -⟩ := hstate
  unfold ReadState.step? at h
  dsimp only at h
  split at h
  · exact isShown_startValue? h hopened htoken fits
  · cases h
    exact isShown_deliver hopened.2.2 (hasText_arr.mpr (by simp))
  · exact isShown_startValue? h hopened htoken fits
  · cases h
    exact ⟨hopened, fun result h => by cases h⟩
  · cases h
    exact ⟨hopened, fun result h => by cases h⟩
  · cases h
    exact isShown_deliver hopened.2.2 (hasText_obj.mpr (by simp))
  · cases h
    exact ⟨hopened, fun result h => by cases h⟩
  · cases h
    exact ⟨hopened, fun result h => by cases h⟩
  · cases h
    refine isShown_deliver hopened.2.2 (hasText_arr.mpr fun item hitem => ?_)
    exact hopened.2.1 item (List.mem_reverse.mp hitem)
  · cases h
    exact ⟨hopened, fun result h => by cases h⟩
  · cases h
    refine isShown_deliver hopened.2.2 (hasText_obj.mpr fun entry hentry => ?_)
    exact hopened.2.1 _ (List.mem_map_of_mem hentry)
  · cases h

/-- **A run.**  What comes of it can be shown. -/
theorem hasText_of_readTokens {state : ReadState} {text : List (Token × List Char)} {value : Json}
    (h : readTokens limit state text = .ok value) (hstate : state.IsShown limit)
    (htokens : ∀ entry ∈ text, entry.1.IsShown) : HasText (limit + 1) value := by
  induction text generalizing state with
  | nil =>
      rw [readTokens] at h
      split at h
      · rename_i result hresult
        cases h
        exact hstate.2 _ hresult
      · cases h
  | cons entry rest ih =>
      obtain ⟨token, left⟩ := entry
      obtain ⟨htoken, hrest⟩ := List.forall_mem_cons.mp htokens
      unfold readTokens at h
      cases hstep : state.step? token with
      | some next =>
          simp only [hstep] at h
          split at h
          · cases h
          · rename_i fits
            exact ih h (isShown_step? hstep hstate htoken fits) hrest
      | none => cases token <;> simp [hstep] at h

end

/-- **Values.**  What has been read from a text can be shown five steps deep in the work. -/
theorem hasText_of_read {room : Room} {text : String} {value : Json}
    (h : read room text = .ok value) : HasText (room - 5 + 1) value := by
  unfold read at h
  dsimp only at h
  split at h
  · cases h
  · split at h
    · rename_i result hread
      split at h
      · cases h
      · cases h
        exact hasText_of_readTokens hread ⟨trivial, fun result h => by cases h⟩
          (forall_mem_tokens isShown_token _)
    · cases h

end Json

/-! ## Specs -/

/-- The configuration in a spec that has been read from a text can be laid over settings. -/
theorem Settings.configurationFault?_of_text {room : Nat} {text : String} {fields : Object}
    (h : Json.read room text = .ok (.obj fields)) :
    configurationFault? (room - 1) (Registry.ownConfiguration fields) = none := by
  rw [configurationFault?, List.findSome?_eq_none_iff]
  intro value hvalue
  unfold valuesShown at hvalue
  split at hvalue
  · rename_i block hblock
    -- the configuration, its object under `errorbar`, and the value are each one container deeper
    obtain ⟨configuration, hown, hconfiguration⟩ : ∃ configuration : Object,
        fields.get? "config" = some (.obj configuration) ∧
          configuration.get? "errorbar" = some (.obj block) := by
      unfold Registry.ownConfiguration at hblock
      cases hconfig : fields.get? "config" with
      | none => simp [hconfig, Json.get?] at hblock
      | some own =>
          rw [hconfig, Option.getD_some] at hblock
          cases own with
          | obj configuration => exact ⟨configuration, rfl, hblock⟩
          | _ => cases hblock
    have hshown := ((Json.hasText_of_read h).get? hown).get? hconfiguration
    obtain ⟨key, hget⟩ : ∃ key, Fields.get? block key = some value := by
      rcases List.mem_append.mp hvalue with hword | hpart
      · obtain ⟨key, -, hkey⟩ := List.mem_filterMap.mp hword
        exact ⟨key, (Option.filter_eq_some_iff.mp hkey).1⟩
      · obtain ⟨part, -, hpart⟩ := List.mem_filterMap.mp hpart
        exact ⟨part.name, (Option.filter_eq_some_iff.mp hpart).1⟩
    exact (hshown.get? hget).mono (by omega)
  · cases hvalue

namespace FieldDef

variable {properties : Object} {d : FieldDef}

theorem get?_aggregate_of_read (h : FieldDef.read properties = .ok d) {aggregate : Aggregate}
    (own : d.aggregate = some aggregate) :
    properties.get? "aggregate" = some aggregate.toJson := by
  obtain ⟨-, -, haggregate, -⟩ := FieldDef.read_eq_ok.mp h
  rw [own] at haggregate
  obtain ⟨value, hvalue, hread⟩ := Reading.exists_of_optional haggregate
  cases value with
  | str name =>
      obtain rfl := Checked.ok.inj hread
      exact hvalue
  | obj parameters =>
      obtain rfl := Checked.ok.inj hread
      exact hvalue
  | _ => simp [Aggregate.read] at hread

theorem get?_bin_of_read (h : FieldDef.read properties = .ok d) {parameters : Object}
    (own : d.bin = some (.parameters parameters)) :
    properties.get? "bin" = some (.obj parameters) := by
  obtain ⟨-, -, -, hbin, -⟩ := FieldDef.read_eq_ok.mp h
  rw [own] at hbin
  obtain ⟨value, hvalue, hread⟩ := Reading.exists_of_optional hbin
  unfold Binning.read at hread
  split at hread
  · cases hread
    exact hvalue
  · split at hread
    · rename_i hflag
      cases hread
      obtain ⟨_, -, hne⟩ := Checked.map_eq_ok.mp hflag
      cases hne
    · cases hread

/-- The name of a definition takes three more steps than its values are deep. -/
theorem namingFault?_eq_none {room left : Nat} (h : Json.HasText room (.obj properties))
    (hread : FieldDef.read properties = .ok d) (le : room + 3 ≤ left) :
    d.namingFault? left = none := by
  unfold namingFault?
  split
  · rfl
  · split
    · rename_i binning hbin
      obtain ⟨hown, -⟩ := Option.filter_eq_some_iff.mp hbin
      cases binning with
      | flag on => rfl
      | parameters parameters =>
          have hparameters := h.get? (get?_bin_of_read hread hown)
          rw [Binning.labelFault?, List.findSome?_eq_none_iff]
          exact fun entry hentry => (hparameters.entry hentry).mono (by omega)
    · rw [Option.bind_eq_none_iff]
      intro aggregate haggregate
      obtain ⟨hown, -⟩ := Option.filter_eq_some_iff.mp haggregate
      exact (h.get? (get?_aggregate_of_read hread hown)).mono (by omega)

theorem namingFaultOfAll?_eq_none {entries : List (Room × FieldDef)}
    (h : ∀ entry ∈ entries, entry.2.namingFault? entry.1 = none) :
    namingFaultOfAll? entries = none := by
  induction entries with
  | nil => rfl
  | cons entry rest ih =>
      obtain ⟨room, d⟩ := entry
      obtain ⟨hentry, hrest⟩ := List.forall_mem_cons.mp h
      rw [namingFaultOfAll?, hentry, ih hrest]
      cases d.hasSource <;> rfl

end FieldDef

namespace UnitSpec

/-- Every channel of the spec is read from a value that can be shown in a given room. -/
def IsShown (room : Room) (spec : UnitSpec) : Prop :=
  ∀ entry ∈ spec.encoding, ∃ value, Json.HasText room value ∧ ChannelDef.read value = .ok entry.2

variable {spec : UnitSpec} {room left : Nat}

/-- **Specs.**  The channels of a spec that has been read from a text can be shown six steps deep in
the work. -/
theorem isShown_of_text {text : String} {fields : Object}
    (h : Json.read room text = .ok (.obj fields)) (hread : UnitSpec.read fields = .ok spec) :
    spec.IsShown (room - 6) := by
  intro entry hentry
  obtain ⟨channels, hchannels, given, hgiven, hchannel⟩ := mem_encoding_of_read hread hentry
  have hvalue := ((Json.hasText_of_read h).get? hchannels).entry hgiven
  exact ⟨given.2, hvalue.mono (by omega), hchannel⟩

theorem IsShown.onlySupported (h : spec.IsShown room) : spec.onlySupported.IsShown room :=
  fun entry hentry => h entry (List.mem_filter.mp hentry).1

theorem IsShown.aggregateFault?_eq_none (h : spec.IsShown room) (le : room ≤ left) (axis : Axis) :
    spec.aggregateFault? left axis = none := by
  rw [aggregateFault?, Option.bind_eq_none_iff]
  intro d hd
  obtain ⟨channel, hchannel, hfield⟩ := Option.bind_eq_some_iff.mp hd
  obtain rfl := ChannelDef.fieldDef?_eq_some.mp hfield
  obtain ⟨value, hvalue, hread⟩ := h _ (Fields.mem_of_get? hchannel)
  obtain ⟨properties, rfl, -, hproperties⟩ := ChannelDef.eq_obj_of_read hread
  rw [Option.bind_eq_none_iff]
  intro aggregate haggregate
  obtain ⟨hown, -⟩ := Option.filter_eq_some_iff.mp haggregate
  exact (hvalue.get? (FieldDef.get?_aggregate_of_read hproperties hown)).mono (by omega)

theorem IsShown.namingFault?_eq_none (h : spec.IsShown room) (le : 0 < room → room + 3 ≤ left)
    (axis : Axis) : spec.namingFault? left axis = none := by
  refine FieldDef.namingFaultOfAll?_eq_none fun entry hentry => ?_
  obtain ⟨channel, hchannel, hdirect⟩ := List.mem_flatMap.mp hentry
  obtain ⟨value, hvalue, hread⟩ := h channel (List.mem_filter.mp hchannel).1
  have hroom : 0 < room := by
    rw [Nat.pos_iff_ne_zero]
    rintro rfl
    exact Json.not_hasText_zero _ hvalue
  have hleft := le hroom
  unfold ChannelDef.directFieldsWithin at hdirect
  split at hdirect
  · -- an item of a list is one container deeper, and one step as well
    rename_i items hlist
    obtain ⟨d, hd, rfl⟩ := List.mem_map.mp hdirect
    obtain ⟨item, hitem, hfield⟩ := List.mem_filterMap.mp hd
    obtain rfl := ChannelDef.fieldDef?_eq_some.mp hfield
    rw [hlist] at hread
    obtain ⟨values, rfl, given, hgiven, hitemRead⟩ := ChannelDef.eq_arr_of_read hread hitem
    obtain ⟨properties, rfl, -, hproperties⟩ := ChannelDef.eq_obj_of_read hitemRead
    exact FieldDef.namingFault?_eq_none (hvalue.item hgiven) hproperties (by omega)
  · obtain ⟨d, hd, rfl⟩ := List.mem_map.mp hdirect
    cases hown : channel.2 with
    | field own =>
        rw [hown] at hread hd
        obtain rfl := List.mem_singleton.mp hd
        obtain ⟨properties, rfl, -, hproperties⟩ := ChannelDef.eq_obj_of_read hread
        exact FieldDef.namingFault?_eq_none hvalue hproperties hleft
    | list items => simp_all
    | _ => simp [hown, ChannelDef.directFields] at hd

end UnitSpec

end LayeredMarks
