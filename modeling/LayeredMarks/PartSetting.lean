import LayeredMarks.Checked

/-!
# Settings of a part

A part of the mark is hidden, shown as it is generated, or shown with properties of its own.  The
setting on the mark decides when there is one; the configured setting fills in otherwise.
-/

namespace LayeredMarks

/-- Whether and how a part is drawn. -/
inductive PartSetting where
  /-- The part is not drawn. -/
  | hidden
  /-- The part is drawn as it is generated. -/
  | shown
  /-- The part is drawn, and the properties are laid over the generated ones. -/
  | styled (properties : Object)
deriving Inhabited

namespace PartSetting

/-- The setting of a boolean. -/
def ofBool (draw : Bool) : PartSetting := if draw then shown else hidden

/-- Reads a setting on a mark: null leaves it open. -/
def read : Json → Except Misfit (Option PartSetting)
  | .null => .ok none
  | .bool draw => .ok (some (ofBool draw))
  | .obj properties => .ok (some (styled properties))
  | found => .error (.showing found (.notPartSetting found))

/-- Reads a configured setting: null hides the part. -/
def readConfigured (value : Json) : Except Misfit PartSetting :=
  (read value).map fun setting => setting.getD hidden

/-- Whether a setting draws its part. -/
def isDrawn : PartSetting → Bool
  | hidden => false
  | _ => true

/-- The properties that a setting brings along. -/
def properties : PartSetting → Object
  | styled properties => properties
  | _ => []

/-- The setting that decides about a part: the one on the mark, else the configured one. -/
def effective (own : Option PartSetting) (configured : PartSetting) : PartSetting :=
  own.getD configured

@[simp] theorem isDrawn_ofBool (draw : Bool) : (ofBool draw).isDrawn = draw := by
  cases draw <;> rfl

@[simp] theorem properties_ofBool (draw : Bool) : (ofBool draw).properties = [] := by
  cases draw <;> rfl

end PartSetting

end LayeredMarks
