import LayeredMarks.LowerSnake

/-!
# The spelling of vocabularies

The words of a vocabulary are to be in lower snake case: groups of small letters and digits, with
single underscores between them.  The check of a list of vocabularies reads each word letter by
letter and stops at the first that is in error.  This file says what passes, and what is complained
about otherwise: `firstComplaint?_misspelled`.

All words in lower snake case pass, and hardly any others: a line feed behind the last group is
overlooked (`brokenWord_unnoticed`).

## Strategy

* **The language.**  What `continues` reads is the rest of a group, further groups behind
  underscores, and at most a line feed.  `continues_append` and `continues_behind` go along such a
  text, and `exists_groups` finds one in what has been read; together they are `accepts_iff`.
* **Aliases.**  A member whose word an earlier one has is left out.  It would not be complained
  about first anyway (`findSome?_distinctMembers`).
* **The first in error.**  The search through the classes finds the class, and the search through
  its members finds the member: `firstComplaint?_eq_some`.
-/

namespace LayeredMarks

/-! ## Aliases -/

theorem Json.eq_str_of_sameKey {value : Json} {text : String}
    (h : value.sameKey (.str text) = true) : value = .str text := by
  cases value with
  | str other =>
      rw [sameKey_str, beq_iff_eq] at h
      rw [h]
  | double x => cases hx : x.toInt? <;> simp [sameKey, keyNumber, hx] at h
  | _ => simp [sameKey, keyNumber] at h

namespace WordClass

variable {β : Type _} {complaint : String × Json → Option β}

/-- Nothing is complained about for the first time in an alias, if complaints depend on words
alone. -/
theorem findSome?_distinctMembers
    (alike : ∀ {name other : String} {word again : Json}, again.sameKey word = true →
      complaint (name, word) = none → complaint (other, again) = none)
    {seen : List Json} (hseen : ∀ word ∈ seen, ∃ name, complaint (name, word) = none)
    (members : Object) :
    (distinctMembers seen members).findSome? complaint = members.findSome? complaint := by
  induction members generalizing seen with
  | nil => rfl
  | cons entry rest ih =>
      obtain ⟨member, word⟩ := entry
      rw [distinctMembers]
      split
      · -- the word passed at the earlier member, and so it does here
        rename_i halias
        obtain ⟨first, hfirst, hsame⟩ := List.any_eq_true.mp halias
        obtain ⟨name, hname⟩ := hseen first hfirst
        rw [ih hseen, List.findSome?_cons, alike hsame hname]
      · rw [List.findSome?_cons, List.findSome?_cons]
        cases hword : complaint (member, word) with
        | some found => rfl
        | none => exact ih (List.forall_mem_cons.mpr ⟨⟨member, hword⟩, hseen⟩)

end WordClass

namespace LowerSnake

/-! ## Lower snake case -/

/-- A small letter or a digit. -/
def IsSmall (c : Char) : Prop := ('a' ≤ c ∧ c ≤ 'z') ∨ ('0' ≤ c ∧ c ≤ '9')

/-- A group: one or more small letters and digits. -/
structure IsGroup (group : String) : Prop where
  nonempty : group ≠ ""
  small : ∀ c ∈ group.toList, IsSmall c

/-- A word in lower snake case: one or more groups, with single underscores between them. -/
def IsLowerSnake (word : String) : Prop :=
  ∃ groups : List String, groups ≠ [] ∧ (∀ group ∈ groups, IsGroup group) ∧
    "_".intercalate groups = word

/-- A word that passes: it is in lower snake case, but for a line feed at its very end. -/
def Passes (word : String) : Prop :=
  IsLowerSnake word ∨ ∃ start, IsLowerSnake start ∧ word = start ++ "\n"

theorem isLetter_iff {c : Char} : isLetter c = true ↔ IsSmall c := by
  have hlower : c.isLower = (decide (c.val ≥ 'a'.val) && decide (c.val ≤ 'z'.val)) := rfl
  simp [isLetter, IsSmall, hlower, Char.isDigit, Char.le_def]

/-- Groups behind underscores. -/
private def behind (groups : List String) : List Char :=
  groups.flatMap fun group => '_' :: group.toList

private theorem toList_intercalate_cons (group : String) (groups : List String) :
    ("_".intercalate (group :: groups)).toList = group.toList ++ behind groups := by
  induction groups generalizing group with
  | nil => simp [behind]
  | cons next groups ih =>
      rw [String.intercalate_cons_cons, String.toList_append, ih]
      simp [behind]

/-- As it is read, a word in lower snake case is a group and then further groups behind
underscores. -/
private theorem isLowerSnake_iff {word : String} :
    IsLowerSnake word ↔ ∃ group groups, IsGroup group ∧ (∀ next ∈ groups, IsGroup next) ∧
      word.toList = group.toList ++ behind groups := by
  constructor
  · rintro ⟨groups, hne, hgroups, rfl⟩
    obtain ⟨group, groups, rfl⟩ := List.exists_cons_of_ne_nil hne
    obtain ⟨hgroup, hgroups⟩ := List.forall_mem_cons.mp hgroups
    exact ⟨group, groups, hgroup, hgroups, toList_intercalate_cons group groups⟩
  · rintro ⟨group, groups, hgroup, hgroups, hword⟩
    have hspelled : "_".intercalate (group :: groups) = word := by
      apply String.toList_inj.mp
      rw [toList_intercalate_cons, hword]
    exact ⟨group :: groups, List.cons_ne_nil _ _, List.forall_mem_cons.mpr ⟨hgroup, hgroups⟩,
      hspelled⟩

/-- There is nothing but small letters, digits and underscores in lower snake case. -/
theorem IsLowerSnake.isSmall_or_eq {word : String} (h : IsLowerSnake word) {c : Char}
    (hc : c ∈ word.toList) : IsSmall c ∨ c = '_' := by
  obtain ⟨group, groups, hgroup, hgroups, hword⟩ := isLowerSnake_iff.mp h
  simp only [hword, behind, List.mem_append, List.mem_flatMap, List.mem_cons] at hc
  rcases hc with hc | ⟨next, hnext, rfl | hc⟩
  · exact .inl (hgroup.small c hc)
  · exact .inr rfl
  · exact .inl ((hgroups next hnext).small c hc)

/-! ## The language -/

private theorem continues_cons {c : Char} (h : IsSmall c) (rest : List Char) :
    continues (c :: rest) = continues rest := by
  have hfeed : c ≠ '\n' := by
    rintro rfl
    simp [IsSmall] at h
  have hbar : c ≠ '_' := by
    rintro rfl
    simp [IsSmall] at h
  rw [continues.eq_def]
  simp [hfeed, hbar, isLetter_iff.mpr h]

private theorem continues_append {letters : List Char} (h : ∀ c ∈ letters, IsSmall c)
    (rest : List Char) : continues (letters ++ rest) = continues rest := by
  induction letters with
  | nil => rfl
  | cons c letters ih =>
      obtain ⟨hc, hletters⟩ := List.forall_mem_cons.mp h
      rw [List.cons_append, continues_cons hc, ih hletters]

private theorem IsGroup.exists_cons {group : String} (h : IsGroup group) :
    ∃ c letters, group.toList = c :: letters ∧ IsSmall c ∧ ∀ c ∈ letters, IsSmall c := by
  obtain ⟨c, letters, hgroup⟩ : ∃ c letters, group.toList = c :: letters :=
    List.exists_cons_of_ne_nil fun hnil => h.nonempty (String.toList_eq_nil_iff.mp hnil)
  obtain ⟨hc, hletters⟩ := List.forall_mem_cons.mp (hgroup ▸ h.small)
  exact ⟨c, letters, hgroup, hc, hletters⟩

private theorem isGroup_ofList {c : Char} {letters : List Char} (hc : IsSmall c)
    (hletters : ∀ c ∈ letters, IsSmall c) : IsGroup (String.ofList (c :: letters)) where
  nonempty := by simp
  small := by simpa [hc] using hletters

private theorem continues_behind {groups : List String} (h : ∀ group ∈ groups, IsGroup group)
    (rest : List Char) : continues (behind groups ++ rest) = continues rest := by
  induction groups with
  | nil => rfl
  | cons group groups ih =>
      obtain ⟨hgroup, hgroups⟩ := List.forall_mem_cons.mp h
      obtain ⟨c, letters, htext, hc, hletters⟩ := hgroup.exists_cons
      calc continues (behind (group :: groups) ++ rest)
          = continues ('_' :: c :: (letters ++ (behind groups ++ rest))) := by
            simp [behind, htext]
        _ = continues (letters ++ (behind groups ++ rest)) := by
            rw [continues, isLetter_iff.mpr hc, Bool.true_and]
        _ = continues rest := by rw [continues_append hletters, ih hgroups]

/-- What is read behind a letter are further letters, groups behind underscores, and at most a line
feed. -/
private theorem exists_groups {rest : List Char} (h : continues rest = true) :
    ∃ letters groups ending, rest = letters ++ behind groups ++ ending ∧
      (∀ c ∈ letters, IsSmall c) ∧ (∀ group ∈ groups, IsGroup group) ∧
      (ending = [] ∨ ending = ['\n']) := by
  fun_induction continues rest with
  | case1 => exact ⟨[], [], [], rfl, by simp, by simp, .inl rfl⟩
  | case2 => exact ⟨[], [], ['\n'], rfl, by simp, by simp, .inr rfl⟩
  | case3 c rest ih =>
      -- the letters behind the underscore and `c` make up the first of the groups
      obtain ⟨hc, hrest⟩ := Bool.and_eq_true_iff.mp h
      obtain ⟨letters, groups, ending, rfl, hletters, hgroups, hending⟩ := ih hrest
      have hgroup : IsGroup (String.ofList (c :: letters)) :=
        isGroup_ofList (isLetter_iff.mp hc) hletters
      exact ⟨[], String.ofList (c :: letters) :: groups, ending, by simp [behind], by simp,
        List.forall_mem_cons.mpr ⟨hgroup, hgroups⟩, hending⟩
  | case4 c rest hfeed hbar ih =>
      obtain ⟨hc, hrest⟩ := Bool.and_eq_true_iff.mp h
      obtain ⟨letters, groups, ending, rfl, hletters, hgroups, hending⟩ := ih hrest
      exact ⟨c :: letters, groups, ending, by simp,
        List.forall_mem_cons.mpr ⟨isLetter_iff.mp hc, hletters⟩, hgroups, hending⟩

/-- Behind a word in lower snake case the reading goes on as behind a letter. -/
private theorem IsLowerSnake.accepts_append {word : String} (h : IsLowerSnake word)
    (ending : String) : accepts (word ++ ending) = continues ending.toList := by
  obtain ⟨group, groups, hgroup, hgroups, hword⟩ := isLowerSnake_iff.mp h
  obtain ⟨c, letters, htext, hc, hletters⟩ := hgroup.exists_cons
  have hwhole : (word ++ ending).toList = c :: (letters ++ (behind groups ++ ending.toList)) := by
    rw [String.toList_append, hword, htext]
    simp
  rw [accepts, hwhole]
  simp only [isLetter_iff.mpr hc, Bool.true_and]
  rw [continues_append hletters, continues_behind hgroups]

/-- A word that is accepted is in lower snake case, but for what may end it. -/
private theorem exists_start {word : String} (h : accepts word = true) :
    ∃ start ending, IsLowerSnake start ∧ (ending = [] ∨ ending = ['\n']) ∧
      word = start ++ String.ofList ending := by
  obtain ⟨c, rest, hword⟩ : ∃ c rest, word.toList = c :: rest :=
    List.exists_cons_of_ne_nil fun hnil => by simp [accepts, hnil] at h
  rw [accepts, hword] at h
  obtain ⟨hc, hrest⟩ := Bool.and_eq_true_iff.mp h
  obtain ⟨letters, groups, ending, rfl, hletters, hgroups, hending⟩ := exists_groups hrest
  have hgroup : IsGroup (String.ofList (c :: letters)) :=
    isGroup_ofList (isLetter_iff.mp hc) hletters
  have hstart : IsLowerSnake (String.ofList (c :: letters ++ behind groups)) :=
    isLowerSnake_iff.mpr ⟨_, groups, hgroup, hgroups, by simp⟩
  refine ⟨_, ending, hstart, hending, ?_⟩
  apply String.toList_inj.mp
  rw [hword]
  simp

/-- **The language.**  Accepted are the words that pass. -/
theorem accepts_iff {word : String} : accepts word = true ↔ Passes word := by
  constructor
  · intro h
    obtain ⟨start, ending, hstart, rfl | rfl, rfl⟩ := exists_start h
    · rw [String.ofList_nil, String.append_empty]
      exact .inl hstart
    · exact .inr ⟨start, hstart, rfl⟩
  · rintro (h | ⟨start, h, rfl⟩)
    · simpa [continues] using h.accepts_append ""
    · rw [h.accepts_append]
      rfl

instance (word : String) : Decidable (Passes word) := decidable_of_iff _ accepts_iff

/-! ## The first in error -/

/-- Every member has a word, and its word passes. -/
def AllPass (members : Object) : Prop :=
  ∀ entry ∈ members, ∃ word, entry.2 = .str word ∧ Passes word

theorem complaintAbout?_str (className member word : String) :
    complaintAbout? className member (.str word) =
      if Passes word then none else some (.misspelled className member word) := by
  simp only [complaintAbout?, accepts_iff]

theorem complaintAbout?_eq_none {className member : String} {value : Json} :
    complaintAbout? className member value = none ↔ ∃ word, value = .str word ∧ Passes word := by
  cases value with
  | str word => simp [complaintAbout?_str]
  | _ => simp [complaintAbout?]

theorem complaint?_eq (words : WordClass) :
    complaint? words =
      words.members.findSome? fun entry => complaintAbout? words.name entry.1 entry.2 := by
  refine WordClass.findSome?_distinctMembers ?_ (by simp) words.members
  -- only texts pass, and there is no other word with the key of a text
  intro name other word again hsame hnone
  obtain ⟨text, rfl, hpasses⟩ := complaintAbout?_eq_none.mp hnone
  exact complaintAbout?_eq_none.mpr ⟨text, Json.eq_str_of_sameKey hsame, hpasses⟩

theorem complaint?_eq_none {words : WordClass} :
    complaint? words = none ↔ AllPass words.members := by
  rw [complaint?_eq, List.findSome?_eq_none_iff]
  simp only [complaintAbout?_eq_none, AllPass]

/-- The first member that is in error, class by class and in the order of the members. -/
structure FirstInError (classes : List WordClass) (words : WordClass) (member : String)
    (value : Json) : Prop where
  earlierClasses : ∃ before after, classes = before ++ words :: after ∧
    ∀ earlier ∈ before, AllPass earlier.members
  earlierMembers : ∃ before after, words.members = before ++ (member, value) :: after ∧
    AllPass before
  inError : ∀ word, value = .str word → ¬ Passes word

theorem firstComplaint?_eq_none {classes : List WordClass} :
    firstComplaint? classes = none ↔ ∀ words ∈ classes, AllPass words.members := by
  rw [firstComplaint?, List.findSome?_eq_none_iff]
  simp only [complaint?_eq_none]

/-- **The first in error.**  The complaint is the one about the first member that is in error. -/
theorem firstComplaint?_eq_some {classes : List WordClass} {complaint : Complaint} :
    firstComplaint? classes = some complaint ↔
      ∃ words member value, FirstInError classes words member value ∧
        complaintAbout? words.name member value = some complaint := by
  rw [firstComplaint?, List.findSome?_eq_some_iff]
  simp only [complaint?_eq_none]
  constructor
  · rintro ⟨before, words, after, hclasses, hfound, hbefore⟩
    rw [complaint?_eq, List.findSome?_eq_some_iff] at hfound
    obtain ⟨above, ⟨member, value⟩, below, hmembers, hfound, habove⟩ := hfound
    have hpass : AllPass above := fun entry hentry =>
      complaintAbout?_eq_none.mp (habove entry hentry)
    refine ⟨words, member, value, ⟨⟨before, after, hclasses, hbefore⟩,
      ⟨above, below, hmembers, hpass⟩, ?_⟩, hfound⟩
    rintro word rfl hpasses
    rw [complaintAbout?_str, if_pos hpasses] at hfound
    cases hfound
  · rintro ⟨words, member, value, hfirst, hfound⟩
    obtain ⟨before, after, hclasses, hbefore⟩ := hfirst.earlierClasses
    obtain ⟨above, below, hmembers, habove⟩ := hfirst.earlierMembers
    refine ⟨before, words, after, hclasses, ?_, hbefore⟩
    rw [complaint?_eq, List.findSome?_eq_some_iff]
    exact ⟨above, (member, value), below, hmembers, hfound, fun entry hentry =>
      complaintAbout?_eq_none.mpr (habove entry hentry)⟩

/-- **The spelling of vocabularies.**  Classes whose members are given texts pass exactly when every
text passes; otherwise the complaint names the first member that is in error, in the order of the
classes and then of the members. -/
theorem firstComplaint?_misspelled {classes : List WordClass}
    (texts : ∀ words ∈ classes, ∀ entry ∈ words.members, ∃ word, entry.2 = .str word) :
    (firstComplaint? classes = none ↔ ∀ words ∈ classes, AllPass words.members) ∧
    ∀ complaint, firstComplaint? classes = some complaint ↔
      ∃ words member word, FirstInError classes words member (.str word) ∧
        complaint = .misspelled words.name member word := by
  refine ⟨firstComplaint?_eq_none, fun complaint => ?_⟩
  rw [firstComplaint?_eq_some]
  constructor
  · rintro ⟨words, member, value, hfirst, hcomplaint⟩
    obtain ⟨before, after, hclasses, -⟩ := hfirst.earlierClasses
    obtain ⟨above, below, hmembers, -⟩ := hfirst.earlierMembers
    obtain ⟨word, rfl⟩ : ∃ word, value = .str word :=
      texts words (by simp [hclasses]) (member, value) (by simp [hmembers])
    rw [complaintAbout?_str, if_neg (hfirst.inError word rfl), Option.some_inj] at hcomplaint
    exact ⟨words, member, word, hfirst, hcomplaint.symm⟩
  · rintro ⟨words, member, word, hfirst, rfl⟩
    exact ⟨words, member, .str word, hfirst,
      by rw [complaintAbout?_str, if_neg (hfirst.inError word rfl)]⟩

/-- An orientation with an alias, and three extents: one ends in a line feed, one has two
underscores side by side, and one begins with a capital letter. -/
private def crookedExtents : List WordClass :=
  [⟨"Orient", [("VERTICAL", .str "vertical"), ("UPRIGHT", .str "vertical")]⟩,
   ⟨"Extent", [("CI", .str "ci\n"), ("IQR", .str "q1__q3"), ("STDERR", .str "Stderr")]⟩]

theorem crookedExtents_misspelled :
    (∀ words ∈ crookedExtents, ∀ entry ∈ words.members, ∃ word, entry.2 = .str word) ∧
    ∃ complaint, firstComplaint? crookedExtents = some complaint ∧
      complaint.message = "Extent.IQR has non-lower_snake value: 'q1__q3'" := by
  have texts : ∀ words ∈ crookedExtents, ∀ entry ∈ words.members, ∃ word, entry.2 = .str word := by
    simp [crookedExtents, -Prod.forall]
  have hfirst : FirstInError crookedExtents crookedExtents[1] "IQR" (.str "q1__q3") := by
    refine ⟨⟨[_], [], rfl, ?_⟩, ⟨[("CI", .str "ci\n")], [_], rfl, ?_⟩, ?_⟩
    · have hvertical : Passes "vertical" := by decide
      simpa [AllPass, -Prod.forall] using hvertical
    · have hfeed : Passes "ci\n" := by decide
      simpa [AllPass, -Prod.forall] using hfeed
    · rintro word ⟨⟩
      decide
  exact ⟨texts, _, ((firstComplaint?_misspelled texts).2 _).mpr ⟨_, _, _, hfirst, rfl⟩, by decide⟩

/-- A word that ends in a line feed is not in lower snake case, and yet nothing is complained
about. -/
theorem brokenWord_unnoticed :
    ¬ IsLowerSnake "ci\n" ∧ firstComplaint? [⟨"Extent", [("CI", .str "ci\n")]⟩] = none := by
  refine ⟨fun h => ?_, by decide⟩
  have hfeed : IsSmall '\n' ∨ '\n' = '_' := h.isSmall_or_eq (by decide)
  simp [IsSmall] at hfeed

end LowerSnake

end LayeredMarks
