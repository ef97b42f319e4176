import ScenarioSuite.Proofs.Expression.Groups
import ScenarioSuite.Proofs.Step.Regrouping

namespace ScenarioSuite

open Expression

namespace Parameter

def owner? (p : Parameter) (index : Nat) : Option (List Char) :=
  match p with
  | string => some (toString index).toList
  | int | float | word | anonymous => none

theorem convert_quoted (p : Parameter) (index : Nat) (raw : String) :
    p.convert? raw (p.owner? index).isNone = p.convert? raw false := by
  cases p <;> rfl

end Parameter

namespace Matcher

def captured : List Parameter → List (Option String) → List (Option String)
  | [], _ => []
  | p :: parameters, values =>
      (values.take p.groupCount).findSome? id :: captured parameters (values.drop p.groupCount)

def shares (index : Nat) : List Parameter → List (Option String) → List Slot
  | [], _ => []
  | p :: parameters, values =>
      ⟨p.owner? index,(values.take p.groupCount).findSome? id⟩ ::
        shares (index + 1) parameters (values.drop p.groupCount)

theorem shares_string (index : Nat) (parameters : List Parameter) (first second : Option String)
    (values : List (Option String)) :
    shares index (.string :: parameters) (first :: second :: values) =
      ⟨some (toString index).toList,first.or second⟩ :: shares (index + 1) parameters values := by
  cases first <;> cases second <;> rfl

theorem shares_whole {p : Parameter} (whole : p ≠ .string) (index : Nat)
    (parameters : List Parameter) (value : Option String) (values : List (Option String)) :
    shares index (p :: parameters) (value :: values) =
      ⟨none,value⟩ :: shares (index + 1) parameters values := by
  cases p with
  | string => exact absurd rfl whole
  | int | float | word | anonymous => cases value <;> rfl

theorem layout_whole {p : Parameter} (whole : p ≠ .string) (index : Nat)
    (parameters : List Parameter) :
    layout index (p :: parameters) = none :: layout (index + 1) parameters := by
  cases p with
  | string => exact absurd rfl whole
  | int | float | word | anonymous => rfl

inductive Shared : Nat → List Parameter → List (Option String) → Prop
  | done : Shared index [] []
  | string : Shared (index + 1) rest values →
      Shared index (.string :: rest) (first :: second :: values)
  | whole : p ≠ .string → Shared (index + 1) rest values →
      Shared index (p :: rest) (value :: values)

theorem shared_of_length {index : Nat} {parameters : List Parameter}
    {values : List (Option String)} (enough : values.length = (layout index parameters).length) :
    Shared index parameters values := by
  induction parameters generalizing index values with
  | nil =>
      obtain rfl := List.length_eq_zero_iff.mp enough
      exact .done
  | cons p parameters ih =>
      by_cases quoted : p = .string
      · subst quoted
        obtain _ | ⟨first,_ | ⟨second,values⟩⟩ := values
        · cases enough
        · simp [layout,Parameter.groupNames] at enough
        · exact .string (ih (by simpa [layout,Parameter.groupNames] using enough))
      · rw [layout_whole quoted] at enough
        cases values with
        | nil => cases enough
        | cons value values => exact .whole quoted (ih (by simpa using enough))

theorem shared_portions {index : Nat} {parameters : List Parameter} {values : List (Option String)}
    (shared : Shared index parameters values) : ∃ portions : List Portion,
      portions.length = parameters.length ∧
      spread index portions = (layout index parameters).zip values ∧
      slotsFrom index portions = shares index parameters values := by
  induction shared with
  | done => exact ⟨[],rfl,rfl,rfl⟩
  | @string index rest values first second shared ih =>
      obtain ⟨portions,each,groups,slots⟩ := ih
      have named : ∀ kind suffix, "_" ++ kind = suffix →
          groupName index kind = "__" ++ toString index ++ suffix := by
        rintro kind _ rfl
        exact String.append_assoc
      refine ⟨.run ("0",first) [("1",second)] :: portions,?_,?_,?_⟩
      · rw [List.length_cons,List.length_cons,each]
      · rw [spread,groups,layout]
        simp [Portion.groups,Parameter.groupNames,named "0" "_0" rfl,named "1" "_1" rfl]
      · rw [slotsFrom,slots,shares_string]
        cases first <;> cases second <;> rfl
  | @whole p index rest values value whole shared ih =>
      obtain ⟨portions,each,groups,slots⟩ := ih
      refine ⟨.whole value :: portions,?_,?_,?_⟩
      · rw [List.length_cons,List.length_cons,each]
      · rw [spread,groups,layout_whole whole]
        rfl
      · rw [slotsFrom,slots,shares_whole whole]
        rfl

theorem valuesFor_layout {parameters : List Parameter} {values : List (Option String)}
    (shared : Shared 0 parameters values) :
    valuesFor parameters.length ((layout 0 parameters).zip values) =
      some (shares 0 parameters values) := by
  obtain ⟨portions,each,groups,slots⟩ := shared_portions shared
  rw [← groups,← slots,← each]
  exact valuesFor_spread portions

theorem convertAll_shares (index : Nat) (parameters : List Parameter)
    (values : List (Option String)) :
    convertAll parameters (shares index parameters values) =
      (parameters.zip (captured parameters values)).mapM fun pair =>
        pair.2.bind fun raw => pair.1.convert? raw false := by
  unfold convertAll
  induction parameters generalizing index values with
  | nil => rfl
  | cons p parameters ih =>
      have own : (do p.convert? (← (values.take p.groupCount).findSome? id) (p.owner? index).isNone) =
          ((values.take p.groupCount).findSome? id).bind fun raw => p.convert? raw false := by
        cases (values.take p.groupCount).findSome? id with
        | none => rfl
        | some raw => exact Parameter.convert_quoted p index raw
      simp only [shares,captured,List.zip_cons_cons,List.mapM_cons,ih]
      rw [← own]
      rfl

end Matcher

end ScenarioSuite
