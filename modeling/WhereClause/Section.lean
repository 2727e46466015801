import WhereClause.Condition

/-!
# Sections

A section is a condition together with further sections, each of which says by
its joint how it is joined to what stands before it.  The joint of the outermost
section is not written.  A section without further ones has the text of its
condition; any other stands in parentheses.

The condition may be missing, and so may a further section.  A missing further
section has no text and does no harm, but it is named among the defects of a
section that is not valid for another reason.
-/

set_option autoImplicit false

namespace WhereClause

/-- How a section is joined to what stands before it. -/
inductive Joint where
  | and
  | or
  deriving DecidableEq, Repr

/-- The keyword of a joint. -/
def Joint.keyword : Joint → String
  | .and => "AND"
  | .or => "OR"

/-- A condition and the sections that are joined to it. -/
inductive Section where
  | mk (primary : Option Condition) (joint : Joint) (children : List (Option Section))

/-- Why a section or a whole clause is not valid. -/
inductive Defect where
  | noSections
  | missingSection
  | missingCondition
  | condition (defect : Condition.Defect)
  deriving DecidableEq, Repr

/-- The text of a defect. -/
def Defect.message : Defect → String
  | .noSections => "No sections were added to the WHERE clause."
  | .missingSection => "null"
  | .missingCondition => "The main FilterConditionSection cannot be null."
  | .condition defect =>
      "The main FilterConditionSection is not valid. Message '" ++ defect.message ++ "'."

/-- The defects of something that is not valid as one text. -/
def Defect.messages? (defects : List Defect) : Option String :=
  if defects.isEmpty then none
  else some (String.intercalate ", " (defects.map Defect.message))

namespace Section

/-- A section of one condition, joined by a conjunction. -/
def ofCondition (c : Condition) : Section := .mk (some c) .and []

/-- The condition of a section. -/
def primary : Section → Option Condition
  | .mk primary _ _ => primary

/-- The joint of a section. -/
def joint : Section → Joint
  | .mk _ joint _ => joint

/-- The sections that are joined to the condition. -/
def children : Section → List (Option Section)
  | .mk _ _ children => children

/-- The same section with another joint. -/
def withJoint (joint : Joint) : Section → Section
  | .mk primary _ children => .mk primary joint children

/-- The same section with one more section at its end. -/
def push (child : Option Section) : Section → Section
  | .mk primary joint children => .mk primary joint (children ++ [child])

/-! ## Equality -/

mutual
/-- Whether two sections are the same. -/
def same : Section → Section → Bool
  | .mk p j cs, .mk q k ds => p == q && j == k && sameAll cs ds

/-- Whether two rows of sections are the same. -/
def sameAll : List (Option Section) → List (Option Section) → Bool
  | [], [] => true
  | none :: cs, none :: ds => sameAll cs ds
  | some c :: cs, some d :: ds => c.same d && sameAll cs ds
  | _, _ => false
end

/-! ## Validity -/

mutual
/-- A section is valid when its condition is, and every section joined to it. -/
def isValid : Section → Bool
  | .mk primary _ children => primary.any Condition.isValid && allValid children

/-- Whether all sections of a row are valid that are not missing. -/
def allValid : List (Option Section) → Bool
  | [] => true
  | none :: rest => allValid rest
  | some child :: rest => child.isValid && allValid rest
end

mutual
/-- Why a section is not valid: its own condition, or else the defects of the
sections joined to it, missing ones included. -/
def defects : Section → List Defect
  | .mk none _ _ => [.missingCondition]
  | .mk (some c) _ children =>
      match c.defect? with
      | some defect => [.condition defect]
      | none => if allValid children then [] else allDefects children

/-- The defects of the sections of a row. -/
def allDefects : List (Option Section) → List Defect
  | [] => []
  | none :: rest => .missingSection :: allDefects rest
  | some child :: rest => child.defects ++ allDefects rest
end

/-- Why a section is not valid, as one text. -/
def message? (s : Section) : Option String := Defect.messages? s.defects

/-! ## Text -/

/-- A text behind a joint; no text stays without one. -/
def behind (joint : Joint) (body : String) : String :=
  if body.isEmpty then "" else joint.keyword ++ " " ++ body

mutual
/-- The text of a section, which is empty when the section is not valid. -/
def render : Section → String
  | .mk none _ _ => ""
  | .mk (some c) joint children =>
      if isValid (.mk (some c) joint children) then
        if children.all Option.isNone then c.render
        else "(" ++ c.render ++ renderAll children ++ ")"
      else ""

/-- The texts of the sections of a row, each behind a space and its joint. -/
def renderAll : List (Option Section) → String
  | [] => ""
  | none :: rest => renderAll rest
  | some (.mk primary joint children) :: rest =>
      " " ++ behind joint (render (.mk primary joint children)) ++ renderAll rest
end

/-- The text of a section that stands behind another one. -/
def renderNext (s : Section) : String := behind s.joint s.render

/-! ## Small laws -/

@[simp]
theorem isValid_ofCondition (c : Condition) : (ofCondition c).isValid = c.isValid := by
  simp [ofCondition, isValid, allValid]

/-- The joint of a section does not matter for its validity. -/
@[simp]
theorem isValid_withJoint (joint : Joint) (s : Section) :
    (s.withJoint joint).isValid = s.isValid := by
  cases s
  simp [withJoint, isValid]

theorem allValid_append (cs ds : List (Option Section)) :
    allValid (cs ++ ds) = (allValid cs && allValid ds) := by
  induction cs with
  | nil => simp [allValid]
  | cons c cs ih => cases c <;> simp [allValid, ih, Bool.and_assoc]

/-- One more section has to be valid too, unless it is missing. -/
@[simp]
theorem isValid_push (s : Section) (child : Option Section) :
    (s.push child).isValid = (s.isValid && child.all isValid) := by
  cases s
  cases child <;> simp [push, isValid, allValid_append, allValid, Bool.and_assoc]

end Section

end WhereClause
