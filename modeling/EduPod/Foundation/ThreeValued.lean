import Mathlib

/-! # Truth with an unknown

Three truth values, the unknown being what a comparison with a missing value yields. Where only
truth counts at the end, connectives without negation may treat the unknown as false.
-/
namespace EduPod

/-- `none` is unknown. -/
abbrev Truth := Option Bool

namespace Truth

def and : Truth → Truth → Truth
  | some false, _ => some false
  | _, some false => some false
  | some true, some true => some true
  | _, _ => none

def or : Truth → Truth → Truth
  | some true, _ => some true
  | _, some true => some true
  | some false, some false => some false
  | _, _ => none

def isTrue (t : Truth) : Bool := t = some true

@[simp] theorem isTrue_some (b : Bool) : isTrue (some b) = b := by cases b <;> rfl
@[simp] theorem isTrue_none : isTrue none = false := rfl

@[simp] theorem isTrue_and (s t : Truth) : (s.and t).isTrue = (s.isTrue && t.isTrue) := by
  rcases s with _ | _ | _ <;> rcases t with _ | _ | _ <;> rfl

@[simp] theorem isTrue_or (s t : Truth) : (s.or t).isTrue = (s.isTrue || t.isTrue) := by
  rcases s with _ | _ | _ <;> rcases t with _ | _ | _ <;> rfl

end Truth
end EduPod
