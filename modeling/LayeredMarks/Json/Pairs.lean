import LayeredMarks.Fields
import LayeredMarks.Json.Printer

/-!
# Objects from pairs

The fields of an object may also be given as a list of pairs.  Anything with two entries makes a
pair: a list of two items, a text of two characters, or an object with two keys.  A later pair
replaces the value of an earlier one with the same key.

A key need not be a text.  Numbers that are equal are the same key, however they are spelled, and
booleans count as the numbers zero and one; the key that came first keeps its spelling.

Main statements: an object stands for itself (`asFields_obj`), and so does the list of its fields
as pairs, where its keys are distinct (`asFields_pairs`).
-/

namespace LayeredMarks.Json

/-- Why a value does not give the fields of an object. -/
inductive PairFailure where
  /-- The value has no entries. -/
  | noEntries (found : Json)
  /-- The entry at a position has no entries of its own. -/
  | noPair (position : Nat)
  /-- The entry at a position has not two entries. -/
  | notTwo (position count : Nat)
  /-- A list or an object stands as a key. -/
  | unusableKey (found : Json)
deriving Inhabited

/-- The complaint about a value that does not give the fields of an object. -/
def PairFailure.message : PairFailure → String
  | noEntries found => "'" ++ found.kindName ++ "' object is not iterable"
  | noPair position =>
    "cannot convert dictionary update sequence element #" ++ toString position ++ " to a sequence"
  | notTwo position count =>
    "dictionary update sequence element #" ++ toString position ++ " has length " ++
      toString count ++ "; 2 is required"
  | unusableKey found => "unhashable type: '" ++ found.kindName ++ "'"

/-! ## Keys -/

/-- Whether the value may stand as a key. -/
def isKey : Json → Bool
  | arr _ | obj _ => false
  | _ => true

/-- The text of a key. -/
def keyText : Json → String
  | str text => text
  | value => value.toLine

/-- The number that a key stands for, as an integer if it is one. -/
def keyNumber : Json → Json
  | bool value => int (if value then 1 else 0)
  | double value => (value.toInt?.map int).getD (double value)
  | value => value

/-- Whether two keys are the same. -/
def sameKey (first second : Json) : Bool :=
  match first.keyNumber, second.keyNumber with
  | str a, str b => a == b
  | int m, int n => m == n
  | double x, double y => x == y
  | moment m, moment n => m == n
  | null, null => true
  | _, _ => false

/-- Writes a value under a key: in place when the key is there, else at the end. -/
def putPair (key value : Json) : List (Json × Json) → List (Json × Json)
  | [] => [(key, value)]
  | (name, old) :: rest =>
    if name.sameKey key then (name, value) :: rest else (name, old) :: putPair key value rest

/-! ## Pairs -/

/-- The key and the value of the entry at a position. -/
def pairOf (position : Nat) (entry : Json) : Except PairFailure (Json × Json) :=
  match entry.entries? with
  | none => .error (.noPair position)
  | some [key, value] => if key.isKey then .ok (key, value) else .error (.unusableKey key)
  | some parts => .error (.notTwo position parts.length)

/-- Writes the pairs of a list one after the other, counting positions from `position`. -/
def putPairs (position : Nat) (done : List (Json × Json)) :
    List Json → Except PairFailure (List (Json × Json))
  | [] => .ok done
  | entry :: rest =>
    match pairOf position entry with
    | .error failure => .error failure
    | .ok (key, value) => putPairs (position + 1) (putPair key value done) rest

/-- The fields that a value gives: those of an object, or those that its entries make as pairs, with
their keys named by `nameOf`. -/
def asFields (nameOf : Json → String) (value : Json) : Except PairFailure Object :=
  match value with
  | obj fields => .ok fields
  | _ =>
    match value.entries? with
    | some entries =>
      (putPairs 0 [] entries).map fun pairs => pairs.map fun pair => (nameOf pair.1, pair.2)
    | none => .error (.noEntries value)

theorem asFields_obj (nameOf : Json → String) (fields : Object) :
    asFields nameOf (.obj fields) = .ok fields := rfl

/-- The fields of an object as a list of pairs. -/
def pairs (fields : Object) : List Json := fields.map fun entry => arr [str entry.1, entry.2]

/-- The fields of an object with their keys as values. -/
def keyed (fields : Object) : List (Json × Json) :=
  fields.map fun entry => (str entry.1, entry.2)

theorem sameKey_str (first second : String) :
    sameKey (str first) (str second) = (first == second) := rfl

theorem putPair_keyed_of_notMem (key : String) (value : Json) (fields : Object)
    (fresh : key ∉ Fields.keys fields) :
    putPair (str key) value (keyed fields) = keyed (fields ++ [(key, value)]) := by
  induction fields with
  | nil => rfl
  | cons entry rest ih =>
    obtain ⟨name, old⟩ := entry
    have hne : name ≠ key := fun e => fresh (by simp [Fields.keys, e])
    have hrest : key ∉ Fields.keys rest := fun hmem => fresh (List.mem_cons_of_mem _ hmem)
    have ih' := ih hrest
    simp only [keyed] at ih'
    simp [keyed, putPair, sameKey_str, hne, ih']

theorem putPairs_pairs (position : Nat) (done fields : Object)
    (distinct : (Fields.keys (done ++ fields)).Nodup) :
    putPairs position (keyed done) (pairs fields) = .ok (keyed (done ++ fields)) := by
  induction fields generalizing position done with
  | nil => simp [pairs, putPairs]
  | cons entry rest ih =>
    obtain ⟨key, value⟩ := entry
    have hfresh : key ∉ Fields.keys done := by
      intro hmem
      rw [Fields.keys, List.map_append, List.nodup_append] at distinct
      exact distinct.2.2 key hmem key (by simp) rfl
    have hdistinct : (Fields.keys ((done ++ [(key, value)]) ++ rest)).Nodup := by
      simpa using distinct
    have hput := putPair_keyed_of_notMem key value done hfresh
    have hrest := ih (position + 1) (done ++ [(key, value)]) hdistinct
    have hkey : isKey (str key) = true := rfl
    simp only [pairs, List.map_cons, putPairs, pairOf, entries?, hkey, if_true, hput]
    simpa [pairs] using hrest

theorem asFields_pairs (fields : Object) (distinct : (Fields.keys fields).Nodup) :
    asFields keyText (.arr (pairs fields)) = .ok fields := by
  have h := putPairs_pairs 0 [] fields (by simpa using distinct)
  have hkeyed : ([] : List (Json × Json)) = keyed [] := rfl
  have hnames : (keyed fields).map (fun pair => (keyText pair.1, pair.2)) = fields := by
    rw [keyed, List.map_map]
    exact List.map_id fields
  simp only [asFields, entries?, hkeyed, h, List.nil_append, Except.map, hnames]

end LayeredMarks.Json
