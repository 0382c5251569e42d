/-!
# Named values in their order of arrival

Objects, encodings and option tables all list their entries in the order in which the names first
arrived, and writers show that order.  `Fields` is a plain list of pairs; every reader of a name
sees the first entry that carries it, and `put` keeps names distinct when they were distinct
before.
-/

namespace LayeredMarks

/-- Named values, in the order in which the names first arrived. -/
abbrev Fields (α : Type) := List (String × α)

namespace Fields

variable {α β : Type}

/-- The names, in order. -/
def keys (fields : Fields α) : List String := fields.map Prod.fst

/-- The value under a name. -/
def get? : Fields α → String → Option α
  | [], _ => none
  | (name, value) :: rest, key => if key = name then some value else get? rest key

/-- Writes a value under a name: in place when the name is there, else at the end. -/
def put : Fields α → String → α → Fields α
  | [], key, value => [(key, value)]
  | (name, old) :: rest, key, value =>
    if name = key then (key, value) :: rest else (name, old) :: put rest key value

/-- Writes every entry of `upper` into `base`, one after the other. -/
def merge (base upper : Fields α) : Fields α :=
  upper.foldl (fun fields entry => fields.put entry.1 entry.2) base

/-- The entries under other names. -/
def erase (fields : Fields α) (key : String) : Fields α := fields.filter fun entry => entry.1 ≠ key

/-- The given entries only, for names whose value may be absent. -/
def ofOptions (entries : List (String × Option α)) : Fields α :=
  entries.filterMap fun entry => entry.2.map fun value => (entry.1, value)

@[simp] theorem get?_nil (key : String) : get? ([] : Fields α) key = none := rfl

theorem get?_cons (name key : String) (value : α) (rest : Fields α) :
    get? ((name, value) :: rest) key = if key = name then some value else get? rest key :=
  rfl

@[simp] theorem get?_put_self (fields : Fields α) (key : String) (value : α) :
    (fields.put key value).get? key = some value := by
  induction fields with
  | nil => simp [put, get?_cons]
  | cons entry rest ih =>
    obtain ⟨name, old⟩ := entry
    by_cases h : name = key
    · simp [put, h, get?_cons]
    · have h' : key ≠ name := fun e => h e.symm
      simp [put, h, get?_cons, h', ih]

theorem get?_put_of_ne (fields : Fields α) {key other : String} (value : α) (h : other ≠ key) :
    (fields.put key value).get? other = fields.get? other := by
  induction fields with
  | nil => simp [put, get?_cons, h]
  | cons entry rest ih =>
    obtain ⟨name, old⟩ := entry
    by_cases hk : name = key
    · subst hk
      simp [put, get?_cons, h]
    · simp [put, hk, get?_cons, ih]

/-- The second value written under a name replaces the first. -/
theorem put_put (fields : Fields α) (key : String) (first second : α) :
    (fields.put key first).put key second = fields.put key second := by
  induction fields with
  | nil => simp [put]
  | cons entry rest ih =>
    obtain ⟨name, old⟩ := entry
    by_cases h : name = key <;> simp [put, h, ih]

/-- Names that are there are passed over by a name that is not. -/
theorem put_append_of_notMem (base fresh : Fields α) {key : String} (value : α)
    (h : key ∉ base.keys) : put (base ++ fresh) key value = base ++ put fresh key value := by
  induction base with
  | nil => rfl
  | cons entry rest ih =>
    obtain ⟨name, old⟩ := entry
    have hne : name ≠ key := fun e => h (by simp [keys, e])
    have hrest : key ∉ keys rest := fun hmem => h (List.mem_cons_of_mem _ hmem)
    simp [put, hne, ih hrest]

theorem put_of_notMem (fields : Fields α) {key : String} (value : α) (h : key ∉ fields.keys) :
    fields.put key value = fields ++ [(key, value)] := by
  simpa [put] using put_append_of_notMem fields [] value h

@[simp] theorem mem_keys_put (fields : Fields α) (key : String) (value : α) {name : String} :
    name ∈ (fields.put key value).keys ↔ name = key ∨ name ∈ fields.keys := by
  induction fields with
  | nil => simp [put, keys]
  | cons entry rest ih =>
    obtain ⟨first, old⟩ := entry
    by_cases h : first = key
    · subst h
      simp [put, keys]
    · simp only [keys] at ih
      simp only [put, h, if_false, keys, List.map_cons, List.mem_cons, ih]
      exact or_left_comm

/-- Writing a value keeps names distinct. -/
theorem nodup_keys_put {fields : Fields α} (key : String) (value : α) (h : fields.keys.Nodup) :
    (fields.put key value).keys.Nodup := by
  induction fields with
  | nil => simp [put, keys]
  | cons entry rest ih =>
    obtain ⟨name, old⟩ := entry
    obtain ⟨hname, hrest⟩ := List.nodup_cons.mp h
    by_cases hkey : name = key
    · subst hkey
      simpa [put, keys] using And.intro hname hrest
    · have hnew : name ∉ keys (put rest key value) := by
        rw [mem_keys_put]
        rintro (heq | hmem)
        · exact hkey heq
        · exact hname hmem
      simpa [put, hkey, keys] using And.intro hnew (ih hrest)

/-- Entries that are left out take no name from another. -/
theorem nodup_keys_filter {fields : Fields α} (p : String × α → Bool) (h : fields.keys.Nodup) :
    (keys (fields.filter p)).Nodup :=
  h.sublist (List.filter_sublist.map Prod.fst)

theorem get?_eq_none_of_notMem {fields : Fields α} {key : String} (h : key ∉ fields.keys) :
    fields.get? key = none := by
  induction fields with
  | nil => rfl
  | cons entry rest ih =>
    obtain ⟨name, value⟩ := entry
    have hne : key ≠ name := fun e => h (by simp [keys, e])
    have hrest : key ∉ keys rest := fun hmem => h (List.mem_cons_of_mem _ hmem)
    simp [get?_cons, hne, ih hrest]

/-- A value is found under exactly the names that are there. -/
theorem isSome_get? (fields : Fields α) (key : String) :
    (fields.get? key).isSome = true ↔ key ∈ fields.keys := by
  induction fields with
  | nil => simp [keys]
  | cons entry rest ih =>
    obtain ⟨name, value⟩ := entry
    simp only [keys] at ih
    by_cases h : key = name <;> simp [get?_cons, keys, h, ih]

theorem mem_of_get? {fields : Fields α} {key : String} {value : α}
    (h : fields.get? key = some value) : (key, value) ∈ fields := by
  induction fields with
  | nil => simp at h
  | cons entry rest ih =>
    obtain ⟨name, first⟩ := entry
    rw [get?_cons] at h
    by_cases hkey : key = name
    · rw [if_pos hkey, Option.some.injEq] at h
      rw [hkey, h]
      exact List.mem_cons_self ..
    · rw [if_neg hkey] at h
      exact List.mem_cons_of_mem _ (ih h)

theorem mem_keys_of_mem {fields : Fields α} {entry : String × α} (h : entry ∈ fields) :
    entry.1 ∈ fields.keys :=
  List.mem_map_of_mem h

/-- With distinct names, every entry is found under its name. -/
theorem get?_of_mem {fields : Fields α} (distinct : fields.keys.Nodup) {key : String} {value : α}
    (h : (key, value) ∈ fields) : fields.get? key = some value := by
  induction fields with
  | nil => simp at h
  | cons entry rest ih =>
    obtain ⟨name, first⟩ := entry
    obtain ⟨hname, hrest⟩ := List.nodup_cons.mp distinct
    rw [get?_cons]
    rcases List.mem_cons.mp h with heq | hmem
    · obtain ⟨rfl, rfl⟩ := Prod.mk.inj heq
      rw [if_pos rfl]
    · have hne : key ≠ name := by
        rintro rfl
        have hkey : key ∈ keys rest := mem_keys_of_mem hmem
        exact hname hkey
      rw [if_neg hne, ih hrest hmem]

/-- With distinct names, it does not matter in which order they arrived. -/
theorem get?_of_perm {fields other : Fields α} (perm : fields.Perm other)
    (distinct : fields.keys.Nodup) (key : String) : fields.get? key = other.get? key := by
  induction perm with
  | nil => rfl
  | cons entry _ ih =>
    rw [get?_cons, get?_cons, ih (List.nodup_cons.mp distinct).2]
  | swap first second rest =>
    obtain ⟨name, value⟩ := first
    obtain ⟨name', value'⟩ := second
    have hne : name' ≠ name := by
      rintro rfl
      exact (List.nodup_cons.mp distinct).1 (List.mem_cons_self ..)
    by_cases hkey : key = name
    · subst hkey
      simp [get?_cons, hne.symm]
    · simp [get?_cons, hkey]
  | trans perm _ ih₁ ih₂ =>
    rw [ih₁ distinct, ih₂ ((perm.map Prod.fst).nodup_iff.mp distinct)]

theorem get?_append (first second : Fields α) (key : String) :
    get? (first ++ second) key = (get? first key).or (get? second key) := by
  induction first with
  | nil => rfl
  | cons entry rest ih =>
    obtain ⟨name, value⟩ := entry
    by_cases h : key = name <;> simp [get?_cons, h, ih]

@[simp] theorem get?_erase_self (fields : Fields α) (key : String) :
    (fields.erase key).get? key = none := by
  induction fields with
  | nil => rfl
  | cons entry rest ih =>
    obtain ⟨name, value⟩ := entry
    by_cases h : name = key
    · simpa [erase, h] using ih
    · have hne : key ≠ name := fun e => h e.symm
      simpa [erase, h, hne, get?_cons] using ih

theorem get?_erase_of_ne (fields : Fields α) {key other : String} (hne : other ≠ key) :
    (fields.erase key).get? other = fields.get? other := by
  induction fields with
  | nil => rfl
  | cons entry rest ih =>
    obtain ⟨name, value⟩ := entry
    by_cases h : name = key
    · subst h
      simpa [erase, hne, get?_cons] using ih
    · by_cases hname : other = name <;> simp_all [erase, get?_cons]

/-- A filter that keeps whatever stands under a name does not change what is found there. -/
theorem get?_filter_of_forall (fields : Fields α) {p : String × α → Bool} {key : String}
    (h : ∀ value, p (key, value) = true) : get? (fields.filter p) key = fields.get? key := by
  induction fields with
  | nil => rfl
  | cons entry rest ih =>
    obtain ⟨name, value⟩ := entry
    by_cases hkey : key = name
    · subst hkey
      simp [h, get?_cons]
    · cases hp : p (name, value) <;> simp [hp, get?_cons, hkey, ih]

theorem get?_filter (fields : Fields α) {p : String → Bool} {key : String} (h : p key = true) :
    get? (fields.filter fun entry => p entry.1) key = fields.get? key :=
  get?_filter_of_forall fields fun _ => h

theorem get?_map (fields : Fields α) (f : α → β) (key : String) :
    get? (fields.map fun entry => (entry.1, f entry.2)) key = (fields.get? key).map f := by
  induction fields with
  | nil => rfl
  | cons entry rest ih =>
    obtain ⟨name, value⟩ := entry
    by_cases h : key = name <;> simp [get?_cons, h, ih]

@[simp] theorem keys_map (fields : Fields α) (f : α → β) :
    keys (fields.map fun entry => (entry.1, f entry.2)) = fields.keys := by
  simp [keys]

/-- With distinct names, a filter keeps what is found under a name or leaves nothing there. -/
theorem get?_filter_of_nodup {fields : Fields α} (h : fields.keys.Nodup) (p : String × α → Bool)
    (key : String) :
    get? (fields.filter p) key = (fields.get? key).filter fun value => p (key, value) := by
  induction fields with
  | nil => rfl
  | cons entry rest ih =>
    obtain ⟨name, value⟩ := entry
    obtain ⟨hname, hrest⟩ := List.nodup_cons.mp h
    have htail := ih hrest
    by_cases hkey : key = name
    · subst hkey
      -- the name does not come again, so nothing is found once its entry is dropped
      rw [get?_eq_none_of_notMem hname] at htail
      cases hp : p (key, value) <;> simp [hp, get?_cons, htail, Option.filter]
    · cases hp : p (name, value) <;> simp [hp, get?_cons, hkey, htail]

theorem mem_keys_filter (fields : Fields α) (p : String → Bool) {name : String} :
    name ∈ keys (fields.filter fun entry => p entry.1) ↔ name ∈ fields.keys ∧ p name = true := by
  simp only [keys, List.mem_map, List.mem_filter]
  constructor
  · rintro ⟨entry, ⟨hmem, hname⟩, rfl⟩
    exact ⟨⟨entry, hmem, rfl⟩, hname⟩
  · rintro ⟨⟨entry, hmem, rfl⟩, hname⟩
    exact ⟨entry, ⟨hmem, hname⟩, rfl⟩

@[simp] theorem mem_keys_erase (fields : Fields α) (key : String) {name : String} :
    name ∈ (fields.erase key).keys ↔ name ∈ fields.keys ∧ name ≠ key := by
  simpa [erase] using mem_keys_filter fields (fun other => other ≠ key)

/-- A filter that drops a name does not see what is written under it. -/
theorem filter_put_of_false (fields : Fields α) {p : String → Bool} {key : String} (value : α)
    (h : p key = false) :
    (fields.put key value).filter (fun entry => p entry.1) =
      fields.filter fun entry => p entry.1 := by
  induction fields with
  | nil => simp [put, h]
  | cons entry rest ih =>
    obtain ⟨name, old⟩ := entry
    by_cases hname : name = key
    · subst hname
      simp [put, h]
    · simp [put, hname, List.filter_cons, ih]

@[simp] theorem ofOptions_cons_none (name : String) (rest : Fields (Option α)) :
    ofOptions ((name, none) :: rest) = ofOptions rest := rfl

@[simp] theorem ofOptions_cons_some (name : String) (value : α) (rest : Fields (Option α)) :
    ofOptions ((name, some value) :: rest) = (name, value) :: ofOptions rest := rfl

theorem keys_ofOptions_sublist (entries : Fields (Option α)) :
    (ofOptions entries).keys.Sublist entries.keys := by
  induction entries with
  | nil => exact List.Sublist.slnil
  | cons entry rest ih =>
    obtain ⟨name, value⟩ := entry
    cases value with
    | none => exact ih.cons name
    | some value => exact ih.cons_cons name

/-- With distinct names, each is there exactly when its value is. -/
theorem get?_ofOptions {entries : Fields (Option α)} (h : entries.keys.Nodup) (key : String) :
    (ofOptions entries).get? key = (get? entries key).join := by
  induction entries with
  | nil => rfl
  | cons entry rest ih =>
    obtain ⟨name, value⟩ := entry
    obtain ⟨hname, hrest⟩ := List.nodup_cons.mp h
    have htail := ih hrest
    by_cases hkey : key = name
    · subst hkey
      rw [get?_eq_none_of_notMem hname] at htail
      cases value with
      | none => simpa [get?_cons] using htail
      | some value => simp [get?_cons]
    · cases value with
      | none => simpa [get?_cons, hkey] using htail
      | some value => simpa [get?_cons, hkey] using htail

theorem mem_put {fields : Fields α} {key : String} {value : α} {entry : String × α}
    (h : entry ∈ fields.put key value) : entry = (key, value) ∨ entry ∈ fields := by
  induction fields with
  | nil => exact Or.inl (List.mem_singleton.mp h)
  | cons first rest ih =>
    obtain ⟨name, old⟩ := first
    by_cases hname : name = key
    · rw [put, if_pos hname] at h
      rcases List.mem_cons.mp h with rfl | hrest
      · exact Or.inl rfl
      · exact Or.inr (List.mem_cons_of_mem _ hrest)
    · rw [put, if_neg hname] at h
      rcases List.mem_cons.mp h with rfl | hrest
      · exact Or.inr (List.mem_cons_self ..)
      · exact (ih hrest).imp_right (List.mem_cons_of_mem _)

@[simp] theorem merge_nil (base : Fields α) : base.merge [] = base := rfl

theorem merge_cons (base : Fields α) (key : String) (value : α) (rest : Fields α) :
    base.merge ((key, value) :: rest) = (base.put key value).merge rest := rfl

@[simp] theorem mem_keys_merge (base upper : Fields α) {name : String} :
    name ∈ (base.merge upper).keys ↔ name ∈ base.keys ∨ name ∈ upper.keys := by
  induction upper generalizing base with
  | nil => simp [keys]
  | cons entry rest ih =>
    obtain ⟨key, value⟩ := entry
    rw [merge_cons, ih, mem_keys_put, or_comm (a := name = key), or_assoc]
    simp only [keys, List.map_cons, List.mem_cons]

/-- Entries of the upper list hide those of the lower one. -/
theorem get?_merge (base : Fields α) {upper : Fields α} (h : upper.keys.Nodup) (key : String) :
    (base.merge upper).get? key = (upper.get? key).or (base.get? key) := by
  induction upper generalizing base with
  | nil => rfl
  | cons entry rest ih =>
    obtain ⟨name, value⟩ := entry
    obtain ⟨hname, hrest⟩ := List.nodup_cons.mp h
    rw [merge_cons, ih (base.put name value) hrest, get?_cons]
    by_cases hkey : key = name
    · subst hkey
      simp [get?_eq_none_of_notMem hname]
    · simp [hkey, get?_put_of_ne]

/-- Merging keeps the names of the lower list distinct. -/
theorem nodup_keys_merge {base : Fields α} (upper : Fields α) (h : base.keys.Nodup) :
    (base.merge upper).keys.Nodup := by
  induction upper generalizing base with
  | nil => exact h
  | cons entry rest ih => exact ih (nodup_keys_put entry.1 entry.2 h)

/-- Entries with new names are merged among themselves, behind those that are there. -/
theorem merge_append_of_disjoint (base fresh upper : Fields α)
    (h : ∀ key ∈ upper.keys, key ∉ base.keys) :
    merge (base ++ fresh) upper = base ++ fresh.merge upper := by
  -- for any entries that were new before: the rest is merged behind them
  induction upper generalizing fresh with
  | nil => rfl
  | cons entry rest ih =>
    obtain ⟨key, value⟩ := entry
    rw [merge_cons, merge_cons, put_append_of_notMem _ _ _ (h key (List.mem_cons_self ..))]
    exact ih _ fun other hother => h other (List.mem_cons_of_mem _ hother)

/-- Distinct names that are all new are merged behind those that are there. -/
theorem merge_eq_append {base upper : Fields α} (distinct : upper.keys.Nodup)
    (fresh : ∀ key ∈ upper.keys, key ∉ base.keys) : base.merge upper = base ++ upper := by
  -- for any list below: each entry is written at its end, and none of the rest stands there
  induction upper generalizing base with
  | nil => simp
  | cons entry rest ih =>
    obtain ⟨key, value⟩ := entry
    obtain ⟨hkey, hrest⟩ := List.nodup_cons.mp distinct
    rw [merge_cons, put_of_notMem _ _ (fresh key (List.mem_cons_self ..)), ih hrest]
    · simp
    · intro name hname hmem
      rw [keys, List.map_append, List.mem_append] at hmem
      rcases hmem with hbase | hlast
      · exact fresh name (List.mem_cons_of_mem _ hname) hbase
      · rw [List.mem_singleton.mp hlast] at hname
        exact hkey hname

/-- Every entry of two merged lists comes from one of them. -/
theorem mem_merge {base upper : Fields α} {entry : String × α} (h : entry ∈ base.merge upper) :
    entry ∈ base ∨ entry ∈ upper := by
  induction upper generalizing base with
  | nil => exact Or.inl h
  | cons first rest ih =>
    have hfold : entry ∈ merge (base.put first.1 first.2) rest := h
    rcases ih hfold with hput | hrest
    · rcases mem_put hput with rfl | hbase
      · exact Or.inr (List.mem_cons_self ..)
      · exact Or.inl hbase
    · exact Or.inr (List.mem_cons_of_mem _ hrest)

end Fields

end LayeredMarks
