import LayeredMarks.Proofs.Pipeline

/-!
# What the name of a column tells

Columns are named by joining texts with underscores: the name of a transform and the field it reads.
Any of these texts may hold underscores of its own, so that a name does not always tell what it was
joined from.  This file says what it does tell.

* **The leading word.**  What stands before the first underscore comes from the transform.  It is
  `bin` for a binning (`leadingWord_label`), and the operator itself for an aggregate
  (`leadingWord_column_of_op`).  The bounds of an error bar and its spread have words of their own
  (`DerivedNames.leadingWord_lower` and the others beside it).
* **Both texts.**  They can be told apart if one of them is known, or if one of them holds no
  underscore: `eq_of_join_eq`.
* **The parameters of a binning.**  They can be told from its label if they are simple: names of
  letters and digits, with booleans or integers as values (`entries_eq_of_label_eq`).
-/

namespace LayeredMarks

/-! ## Texts joined by an underscore -/

/-- The text up to the first underscore. -/
def leadingWord (name : String) : String := String.ofList (name.toList.takeWhile (· ≠ '_'))

/-- The text holds no underscore. -/
def IsWord (text : String) : Prop := '_' ∉ text.toList

instance (text : String) : Decidable (IsWord text) := inferInstanceAs (Decidable ('_' ∉ _))

theorem leadingWord_of_isWord {word : String} (h : IsWord word) : leadingWord word = word := by
  have hall (c : Char) (hc : c ∈ word.toList) : decide (c ≠ '_') = true :=
    decide_eq_true fun heq => h (heq ▸ hc)
  have hwhole : (word.toList ++ []).takeWhile (fun c => decide (c ≠ '_')) =
      word.toList ++ [].takeWhile fun c => decide (c ≠ '_') :=
    List.takeWhile_append_of_pos hall
  rw [List.append_nil, List.takeWhile_nil, List.append_nil] at hwhole
  rw [leadingWord, hwhole, String.ofList_toList]

/-- What is joined behind a text does not change its leading word. -/
theorem leadingWord_join (first rest : String) :
    leadingWord (first ++ "_" ++ rest) = leadingWord first := by
  have hstop : ("_" ++ rest).toList.takeWhile (fun c => decide (c ≠ '_')) = [] := by
    simp [String.toList_append]
  have htake : (first ++ "_" ++ rest).toList.takeWhile (fun c => decide (c ≠ '_')) =
      first.toList.takeWhile fun c => decide (c ≠ '_') := by
    rw [String.append_assoc, String.toList_append, List.takeWhile_append, hstop]
    split
    · rename_i hall
      rw [List.append_nil]
      exact ((List.takeWhile_prefix _).eq_of_length hall).symm
    · rfl
  rw [leadingWord, htake, leadingWord]

theorem leadingWord_join_of_isWord {word : String} (h : IsWord word) (rest : String) :
    leadingWord (word ++ "_" ++ rest) = word := by
  rw [leadingWord_join, leadingWord_of_isWord h]

/-- Two texts are cut alike at the first occurrence of a character, or at their ends. -/
private theorem eq_of_append_eq {c : Char} {first first' rest rest' : List Char}
    (hfirst : c ∉ first) (hfirst' : c ∉ first') (hrest : ∀ a ∈ rest.head?, a = c)
    (hrest' : ∀ a ∈ rest'.head?, a = c) (h : first ++ rest = first' ++ rest') :
    first = first' ∧ rest = rest' := by
  induction first generalizing first' with
  | nil =>
      cases first' with
      | nil => exact ⟨rfl, h⟩
      | cons a tail =>
          have ha : a = c := hrest a (by rw [← List.nil_append rest, h]; rfl)
          exact absurd (ha ▸ List.mem_cons_self ..) hfirst'
  | cons a tail ih =>
      cases first' with
      | nil =>
          have ha : a = c := hrest' a (by rw [← List.nil_append rest', ← h]; rfl)
          exact absurd (ha ▸ List.mem_cons_self ..) hfirst
      | cons a' tail' =>
          obtain ⟨rfl, htails⟩ := List.cons.inj h
          obtain ⟨rfl, hrests⟩ := ih (fun hc => hfirst (List.mem_cons_of_mem _ hc))
            (fun hc => hfirst' (List.mem_cons_of_mem _ hc)) htails
          exact ⟨rfl, hrests⟩

private theorem toList_join (first rest : String) :
    (first ++ "_" ++ rest).toList = first.toList ++ '_' :: rest.toList := by
  simp [String.toList_append]

/-- **Both texts.**  A joined text can be taken apart if one of the texts is known, or if the first
texts or the second texts hold no underscores. -/
theorem eq_of_join_eq {first first' rest rest' : String}
    (told : first = first' ∨ rest = rest' ∨ (IsWord first ∧ IsWord first') ∨
      (IsWord rest ∧ IsWord rest'))
    (h : first ++ "_" ++ rest = first' ++ "_" ++ rest') : first = first' ∧ rest = rest' := by
  have hlists : first.toList ++ '_' :: rest.toList = first'.toList ++ '_' :: rest'.toList := by
    rw [← toList_join, ← toList_join, h]
  rcases told with rfl | rfl | ⟨hword, hword'⟩ | ⟨hword, hword'⟩
  · have hrests := List.append_cancel_left hlists
    exact ⟨rfl, String.toList_inj.mp (List.cons.inj hrests).2⟩
  · exact ⟨String.toList_inj.mp (List.append_cancel_right hlists), rfl⟩
  · obtain ⟨hfirst, hrest⟩ := eq_of_append_eq hword hword' (by simp) (by simp) hlists
    exact ⟨String.toList_inj.mp hfirst, String.toList_inj.mp (List.cons.inj hrest).2⟩
  · -- read from the end, the second texts come first
    have hreverse : rest.toList.reverse ++ '_' :: first.toList.reverse =
        rest'.toList.reverse ++ '_' :: first'.toList.reverse := by
      simpa using congrArg List.reverse hlists
    obtain ⟨hrest, hfirst⟩ := eq_of_append_eq (fun hc => hword (List.mem_reverse.mp hc))
      (fun hc => hword' (List.mem_reverse.mp hc)) (by simp) (by simp) hreverse
    exact ⟨String.toList_inj.mp (List.reverse_inj.mp (List.cons.inj hfirst).2),
      String.toList_inj.mp (List.reverse_inj.mp hrest)⟩

/-! ## The label of a binning -/

namespace Binning

/-- The parameters of a binning; default bins have one. -/
def entries : Binning → Object
  | flag _ => [("maxbins", .int defaultMaxBins)]
  | parameters fields => fields

theorem label_eq (binning : Binning) :
    binning.label = "bin" ++ String.join (binning.entries.map fun field =>
      Text.flattenToWord ("_" ++ field.1 ++ "_" ++ field.2.shown)) := by
  cases binning <;> rfl

theorem leadingWord_label {binning : Binning} (on : binning.isOn = true) :
    leadingWord binning.label = "bin" := by
  obtain ⟨field, rest, hentries⟩ : ∃ field rest, binning.entries = field :: rest := by
    cases binning with
    | flag _ => exact ⟨_, _, rfl⟩
    | parameters fields =>
        cases fields with
        | nil => simp [isOn] at on
        | cons field rest => exact ⟨field, rest, rfl⟩
  -- the first parameter starts with an underscore, which stays when it is flattened
  have hunderscore : Text.isWordCharacter '_' = true := by decide
  have hlabel : binning.label.toList = ['b', 'i', 'n'] ++
      '_' :: ((field.1 ++ "_" ++ field.2.shown).toList.map fun c =>
        if Text.isWordCharacter c then c else '_') ++
      (String.join (rest.map fun field =>
        Text.flattenToWord ("_" ++ field.1 ++ "_" ++ field.2.shown))).toList := by
    rw [label_eq, hentries]
    simp [String.toList_append, String.toList_join, Text.toList_flattenToWord, hunderscore]
  rw [leadingWord, hlabel]
  rfl

end Binning

/-! ## Simple parameters -/

/-- The text consists of letters and digits. -/
def IsPlain (text : String) : Prop := ∀ c ∈ text.toList, Text.isWordCharacter c = true ∧ c ≠ '_'

/-- The value is a boolean or an integer. -/
def Json.IsSimple : Json → Prop
  | bool _ => True
  | int _ => True
  | _ => False

/-- All parameters have plain names and simple values. -/
def Binning.IsSimple (binning : Binning) : Prop :=
  ∀ field ∈ binning.entries, IsPlain field.1 ∧ field.2.IsSimple

theorem IsPlain.isWord {text : String} (h : IsPlain text) : IsWord text :=
  fun hmem => (h '_' hmem).2 rfl

theorem IsPlain.toList_flattenToWord {text : String} (h : IsPlain text) :
    (Text.flattenToWord text).toList = text.toList := by
  have hid : ∀ c ∈ text.toList, (if Text.isWordCharacter c then c else '_') = id c :=
    fun c hc => by simp [(h c hc).1]
  rw [Text.toList_flattenToWord, List.map_congr_left hid, List.map_id]

private theorem toNat_lt_of_isAlphanum {c : Char} (h : c.isAlphanum = true) : c.toNat < 0x80 := by
  have hle {bound : Char} (hbound : c.val ≤ bound.val) : c.toNat ≤ bound.toNat :=
    UInt32.le_iff_toNat_le.mp hbound
  rcases (Bool.or_eq_true c.isAlpha c.isDigit).mp h with halpha | hdigit
  · rcases (Bool.or_eq_true c.isUpper c.isLower).mp halpha with hupper | hlower
    · have hbound : c.val ≤ 'Z'.val := (of_decide_eq_true hupper).2
      exact Nat.lt_of_le_of_lt (hle hbound) (by decide)
    · have hbound : c.val ≤ 'z'.val := of_decide_eq_true ((Bool.and_eq_true _ _).mp hlower).2
      exact Nat.lt_of_le_of_lt (hle hbound) (by decide)
  · have hbound : c.val ≤ '9'.val := of_decide_eq_true ((Bool.and_eq_true _ _).mp hdigit).2
    exact Nat.lt_of_le_of_lt (hle hbound) (by decide)

private theorem isPlain_of_isAlphanum {text : String}
    (h : ∀ c ∈ text.toList, c.isAlphanum = true) : IsPlain text := by
  intro c hc
  have halphanum := h c hc
  refine ⟨by simp [Text.isWordCharacter, toNat_lt_of_isAlphanum halphanum, halphanum], ?_⟩
  rintro rfl
  exact absurd halphanum (by decide)

namespace Json

/-- What stands for the sign of a value in a name. -/
private def sign : Json → List Char
  | int (.negSucc _) => ['_']
  | _ => []

/-- The text of a value without its sign. -/
private def unsigned : Json → String
  | int n => n.natAbs.repr
  | value => value.shown

private theorem isDigit_of_mem_repr {n : Nat} {c : Char} (h : c ∈ n.repr.toList) :
    c.isDigit = true := by
  rw [Nat.toList_repr] at h
  exact Nat.isDigit_of_mem_toDigits (by omega) (by omega) h

private theorem isPlain_unsigned {value : Json} (h : value.IsSimple) : IsPlain value.unsigned := by
  cases value with
  | bool b =>
      have hletters : ∀ c ∈ (shown (.bool b)).toList, c.isAlphanum = true := by
        cases b <;> simp [shown, quoted]
      exact isPlain_of_isAlphanum hletters
  | int n =>
      exact isPlain_of_isAlphanum fun c hc => by simp [Char.isAlphanum, isDigit_of_mem_repr hc]
  | _ => exact absurd h (by simp [IsSimple])

private theorem unsigned_ne_nil {value : Json} (h : value.IsSimple) :
    value.unsigned.toList ≠ [] := by
  cases value with
  | bool b => cases b <;> decide
  | int n =>
      rw [unsigned, Nat.toList_repr]
      exact Nat.toDigits_ne_nil
  | _ => exact absurd h (by simp [IsSimple])

private theorem toList_flattenToWord_shown {value : Json} (h : value.IsSimple) :
    (Text.flattenToWord value.shown).toList = value.sign ++ value.unsigned.toList := by
  have hplain := (isPlain_unsigned h).toList_flattenToWord
  cases value with
  | bool b => exact hplain
  | int n =>
      cases n with
      | ofNat m => exact hplain
      | negSucc m =>
          have hminus : Text.isWordCharacter '-' = false := by decide
          have hshown : shown (.int (.negSucc m)) = "-" ++ (m + 1).repr := rfl
          have hunsigned : unsigned (.int (.negSucc m)) = (m + 1).repr := rfl
          rw [hunsigned, Text.toList_flattenToWord] at hplain
          rw [hshown, hunsigned, Text.toList_flattenToWord, String.toList_append, List.map_append,
            hplain]
          simp [sign, hminus]
  | _ => exact absurd h (by simp [IsSimple])

/-- No boolean is written like a number. -/
private theorem unsigned_bool_ne_repr (b : Bool) (n : Nat) : unsigned (.bool b) ≠ n.repr := by
  intro h
  cases b with
  | false =>
      have hmem : 'F' ∈ (unsigned (.bool false)).toList := by decide
      exact absurd (isDigit_of_mem_repr (h ▸ hmem)) (by decide)
  | true =>
      have hmem : 'T' ∈ (unsigned (.bool true)).toList := by decide
      exact absurd (isDigit_of_mem_repr (h ▸ hmem)) (by decide)

private theorem eq_of_repr_eq {m n : Nat} (h : m.repr = n.repr) : m = n := by
  have hdigits : Nat.toDigits 10 m = Nat.toDigits 10 n := by
    rw [← Nat.toList_repr, ← Nat.toList_repr, h]
  simpa using congrArg (Nat.ofDigitChars 10 · 0) hdigits

private theorem eq_of_sign_of_unsigned {value other : Json} (h : value.IsSimple)
    (h' : other.IsSimple) (hsign : value.sign = other.sign)
    (hunsigned : value.unsigned = other.unsigned) : value = other := by
  cases value with
  | bool b =>
      cases other with
      | bool b' => cases b <;> cases b' <;> first | rfl | exact absurd hunsigned (by decide)
      | int n => exact absurd hunsigned (unsigned_bool_ne_repr b _)
      | _ => exact absurd h' (by simp [IsSimple])
  | int n =>
      cases other with
      | bool b => exact absurd hunsigned.symm (unsigned_bool_ne_repr b _)
      | int n' =>
          have habs : n.natAbs = n'.natAbs := eq_of_repr_eq hunsigned
          have hn : n = n' := by
            cases n <;> cases n' <;> simp_all [sign]
          rw [hn]
      | _ => exact absurd h' (by simp [IsSimple])
  | _ => exact absurd h (by simp [IsSimple])

/-- The text of a value can be told from what follows it. -/
private theorem eq_of_flat_append_eq {value other : Json} (h : value.IsSimple) (h' : other.IsSimple)
    {rest rest' : List Char} (hrest : ∀ a ∈ rest.head?, a = '_')
    (hrest' : ∀ a ∈ rest'.head?, a = '_')
    (heq : (value.sign ++ value.unsigned.toList) ++ rest =
      (other.sign ++ other.unsigned.toList) ++ rest') : value = other ∧ rest = rest' := by
  have hsigns (v : Json) : v.sign = [] ∨ v.sign = ['_'] := by
    unfold sign
    split <;> simp
  have hword := (isPlain_unsigned h).isWord
  have hword' := (isPlain_unsigned h').isWord
  rcases hsigns value with hs | hs <;> rcases hsigns other with hs' | hs'
  · rw [hs, hs', List.nil_append, List.nil_append] at heq
    obtain ⟨hu, hrests⟩ := eq_of_append_eq hword hword' hrest hrest' heq
    exact ⟨eq_of_sign_of_unsigned h h' (hs.trans hs'.symm) (String.toList_inj.mp hu), hrests⟩
  · -- only one has a sign, so the other would be empty
    have hcut : value.unsigned.toList ++ rest = [] ++ '_' :: (other.unsigned.toList ++ rest') := by
      simpa [hs, hs'] using heq
    obtain ⟨hu, -⟩ := eq_of_append_eq hword (by simp) hrest (by simp) hcut
    exact absurd hu (unsigned_ne_nil h)
  · have hcut : other.unsigned.toList ++ rest' = [] ++ '_' :: (value.unsigned.toList ++ rest) := by
      simpa [hs, hs'] using heq.symm
    obtain ⟨hu, -⟩ := eq_of_append_eq hword' (by simp) hrest' (by simp) hcut
    exact absurd hu (unsigned_ne_nil h')
  · rw [hs, hs', List.append_assoc, List.append_assoc] at heq
    obtain ⟨hu, hrests⟩ := eq_of_append_eq hword hword' hrest hrest' (List.append_cancel_left heq)
    exact ⟨eq_of_sign_of_unsigned h h' (hs.trans hs'.symm) (String.toList_inj.mp hu), hrests⟩

end Json

namespace Binning

/-- A parameter as it stands in a label. -/
private def spelled (field : String × Json) : List Char :=
  '_' :: field.1.toList ++ '_' :: (Text.flattenToWord field.2.shown).toList

private theorem toList_label {binning : Binning} (simple : binning.IsSimple) :
    binning.label.toList = "bin".toList ++ binning.entries.flatMap spelled := by
  have hunderscore : Text.isWordCharacter '_' = true := by decide
  rw [label_eq, String.toList_append, String.toList_join, List.flatMap_map]
  refine congrArg ("bin".toList ++ ·) (List.flatMap_congr fun field hfield => ?_)
  have hname := (simple field hfield).1.toList_flattenToWord
  rw [Text.toList_flattenToWord] at hname
  simp [spelled, Text.toList_flattenToWord, String.toList_append, hunderscore, hname]

private theorem eq_of_flatMap_spelled_eq {fields fields' : Object}
    (simple : ∀ field ∈ fields, IsPlain field.1 ∧ field.2.IsSimple)
    (simple' : ∀ field ∈ fields', IsPlain field.1 ∧ field.2.IsSimple)
    (h : fields.flatMap spelled = fields'.flatMap spelled) : fields = fields' := by
  have hboundary (rest : Object) : ∀ a ∈ (rest.flatMap spelled).head?, a = '_' := by
    cases rest <;> simp [spelled]
  induction fields generalizing fields' with
  | nil =>
      cases fields' with
      | nil => rfl
      | cons field rest => simp [spelled] at h
  | cons field rest ih =>
      cases fields' with
      | nil => simp [spelled] at h
      | cons field' rest' =>
          obtain ⟨name, value⟩ := field
          obtain ⟨name', value'⟩ := field'
          obtain ⟨hname, hvalue⟩ := simple _ (List.mem_cons_self ..)
          obtain ⟨hname', hvalue'⟩ := simple' _ (List.mem_cons_self ..)
          dsimp only at hvalue hvalue'
          simp only [List.flatMap_cons, spelled, List.cons_append, List.append_assoc,
            List.cons.injEq, true_and, Json.toList_flattenToWord_shown hvalue,
            Json.toList_flattenToWord_shown hvalue'] at h
          -- cut behind the name, and then behind the value
          obtain ⟨hnames, hafter⟩ :=
            eq_of_append_eq hname.isWord hname'.isWord (by simp) (by simp) h
          obtain ⟨rfl, hrests⟩ := Json.eq_of_flat_append_eq hvalue hvalue' (hboundary rest)
            (hboundary rest') (by simpa using (List.cons.inj hafter).2)
          obtain rfl : name = name' := String.toList_inj.mp hnames
          rw [ih (fun field hfield => simple field (List.mem_cons_of_mem _ hfield))
            (fun field hfield => simple' field (List.mem_cons_of_mem _ hfield)) hrests]

/-- **The parameters of a binning** can be told from its label if they are simple. -/
theorem entries_eq_of_label_eq {binning binning' : Binning} (simple : binning.IsSimple)
    (simple' : binning'.IsSimple) (h : binning.label = binning'.label) :
    binning.entries = binning'.entries := by
  have hlists := congrArg String.toList h
  rw [toList_label simple, toList_label simple'] at hlists
  exact eq_of_flatMap_spelled_eq simple simple' (List.append_cancel_left hlists)

end Binning

/-! ## The columns of definitions -/

theorem isWord_of_mem_aggregateOps : ∀ op ∈ aggregateOps, IsWord op := by decide

namespace FieldDef

variable {d : FieldDef} {field : String}

theorem transformName?_of_binned {binning : Binning} (hbin : d.bin = some binning)
    (on : binning.isOn = true) : d.transformName? = some binning.label := by
  simp [transformName?, hbin, on, Option.filter]

theorem column_of_binned {binning : Binning} (hbin : d.bin = some binning)
    (on : binning.isOn = true) (counts : d.aggregatesBy "count" = false)
    (hfield : d.field = some field) (hne : field ≠ "") :
    d.column = binning.label ++ "_" ++ field := by
  simp [column, counts, transformName?_of_binned hbin on, hfield, hne]

theorem column_of_timeUnit {unit : String} (haggregate : d.aggregate = none)
    (unbinned : d.isBinned = false) (hunit : d.givenTimeUnit? = some unit)
    (hfield : d.field = some field) (hne : field ≠ "") : d.column = unit ++ "_" ++ field := by
  have hname : d.transformName? = some unit := by
    simp [transformName?, filter_isOn_of_unbinned unbinned, haggregate, hunit]
  simp [column, aggregatesBy, haggregate, hname, hfield, hne]

theorem transformName?_of_op {op : String} (haggregate : d.aggregate = some (.op op))
    (known : op ∈ aggregateOps) (unbinned : d.isBinned = false) : d.transformName? = some op := by
  have hgiven : op ≠ "" := by
    rintro rfl
    exact absurd known (by decide)
  have hnamed : (d.aggregate.filter fun aggregate => aggregate.toJson.isGiven) =
      some (.op op) := by
    simp [haggregate, Option.filter, Aggregate.toJson, Json.isGiven, hgiven]
  rw [transformName?, filter_isOn_of_unbinned unbinned, hnamed]
  rfl

theorem column_of_op {op : String} (haggregate : d.aggregate = some (.op op))
    (known : op ∈ aggregateOps) (unbinned : d.isBinned = false) (counts : op ≠ "count")
    (hfield : d.field = some field) (hne : field ≠ "") : d.column = op ++ "_" ++ field := by
  have hother : d.aggregatesBy "count" = false := by
    simp [aggregatesBy, haggregate, Aggregate.isOp, counts]
  simp [column, hother, transformName?_of_op haggregate known unbinned, hfield, hne]

/-- A definition with a transform has a column that starts like the name of the transform, unless it
counts. -/
theorem leadingWord_column {name : String} (counts : d.aggregatesBy "count" = false)
    (hname : d.transformName? = some name) : leadingWord d.column = leadingWord name := by
  simp only [column, counts, hname, Bool.false_eq_true, if_false]
  split
  · rfl
  · exact leadingWord_join _ _

/-- The column of an aggregate starts with the operator, unless the field is binned as well. -/
theorem leadingWord_column_of_op {op : String} (haggregate : d.aggregate = some (.op op))
    (known : op ∈ aggregateOps) (unbinned : d.isBinned = false) : leadingWord d.column = op := by
  cases counts : d.aggregatesBy "count" with
  | true =>
      -- rows are counted without a field
      have hcount : op = "count" := by simpa [aggregatesBy, haggregate, Aggregate.isOp] using counts
      rw [column, counts, if_pos rfl, hcount]
      decide
  | false =>
      rw [leadingWord_column counts (transformName?_of_op haggregate known unbinned),
        leadingWord_of_isWord (isWord_of_mem_aggregateOps op known)]

end FieldDef

/-! ## The columns that are computed from the summarized field -/

namespace DerivedNames

variable (field : String) (center : Center) (extent : Extent)

theorem leadingWord_center :
    leadingWord (DerivedNames.of field center extent).center = Vocabulary.word center := by
  have hword : IsWord (Vocabulary.word center) := by cases center <;> decide
  exact leadingWord_join_of_isWord hword field

theorem leadingWord_lower : leadingWord (DerivedNames.of field center extent).lower = "lower" := by
  have hjoined : "lower_whisker_" ++ field = "lower" ++ "_" ++ ("whisker_" ++ field) := by
    rw [← String.append_assoc]
    rfl
  rw [DerivedNames.of, hjoined, leadingWord_join_of_isWord (by decide)]

theorem leadingWord_upper : leadingWord (DerivedNames.of field center extent).upper = "upper" := by
  have hjoined : "upper_whisker_" ++ field = "upper" ++ "_" ++ ("whisker_" ++ field) := by
    rw [← String.append_assoc]
    rfl
  rw [DerivedNames.of, hjoined, leadingWord_join_of_isWord (by decide)]

theorem leadingWord_spread {field : String} {center : Center} {extent : Extent} {spread : String}
    (h : (DerivedNames.of field center extent).spread = some spread) :
    leadingWord spread = "extent" := by
  have hjoined : "extent_" ++ field = "extent" ++ "_" ++ field := rfl
  dsimp only [DerivedNames.of] at h
  split at h
  · cases h
  · rw [← Option.some.inj h, hjoined, leadingWord_join_of_isWord (by decide)]

end DerivedNames

end LayeredMarks
