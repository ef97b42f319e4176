import ScenarioSuite.Tag.Expr

namespace ScenarioSuite.Tag

def SameNames (tags others : List String) : Prop :=
  ∀ name, name ∈ tags.map bare ↔ name ∈ others.map bare

instance (tags others : List String) : Decidable (SameNames tags others) :=
  decidable_of_iff
    ((∀ name ∈ tags.map bare, name ∈ others.map bare) ∧ ∀ name ∈ others.map bare, name ∈ tags.map bare)
    ⟨fun both name => ⟨both.1 name,both.2 name⟩,
      fun same => ⟨fun name => (same name).mp,fun name => (same name).mpr⟩⟩

def Unmarked (name : String) : Prop := name.toList.head? ≠ some '@'

theorem bare_signed (name : String) : bare ("@" ++ name) = name := by
  simp [bare,bareChars]

theorem bare_unmarked {name : String} (plain : Unmarked name) : bare name = name := by
  have same : bareChars name.toList = name.toList := by
    unfold Unmarked at plain
    cases text : name.toList with
    | nil => rfl
    | cons c rest =>
        rw [text] at plain
        unfold bareChars
        split
        · rename_i later marked
          exact absurd (congrArg List.head? marked) plain
        · rfl
  rw [bare,same,String.ofList_toList]

theorem eval_same {tags others : List String} (same : SameNames tags others) (e : Expr) :
    e.eval tags = e.eval others := by
  induction e with
  | tag name =>
      rw [Bool.eq_iff_iff,eval_tag,eval_tag]
      exact same (bare name)
  | not operand ih => rw [Expr.eval,Expr.eval,ih]
  | and left right ihl ihr => rw [Expr.eval,Expr.eval,ihl,ihr]
  | or left right ihl ihr => rw [Expr.eval,Expr.eval,ihl,ihr]

-- A single tag with a sign in front tells whether a list has its name, so expressions tell
-- all lists apart that do not name the same tags.
theorem same_of_eval {tags others : List String} (alike : ∀ e : Expr, e.eval tags = e.eval others) :
    SameNames tags others := by
  intro name
  have asked := alike (.tag ("@" ++ name))
  rwa [Bool.eq_iff_iff,eval_tag,eval_tag,bare_signed] at asked

inductive Resigned : Expr → Expr → Prop
  | kept (name : String) : Resigned (.tag name) (.tag name)
  | signed : Unmarked name → Resigned (.tag name) (.tag ("@" ++ name))
  | unsigned : Unmarked name → Resigned (.tag ("@" ++ name)) (.tag name)
  | not : Resigned e f → Resigned (.not e) (.not f)
  | and : Resigned e f → Resigned g h → Resigned (.and e g) (.and f h)
  | or : Resigned e f → Resigned g h → Resigned (.or e g) (.or f h)

theorem eval_signed {name : String} (plain : Unmarked name) (tags : List String) :
    (Expr.tag name).eval tags = (Expr.tag ("@" ++ name)).eval tags := by
  rw [Bool.eq_iff_iff,eval_tag,eval_tag,bare_signed,bare_unmarked plain]

theorem eval_resigned {e f : Expr} (resigned : Resigned e f) (tags : List String) :
    e.eval tags = f.eval tags := by
  induction resigned with
  | kept => rfl
  | signed plain => exact eval_signed plain tags
  | unsigned plain => exact (eval_signed plain tags).symm
  | not _ ih => rw [Expr.eval,Expr.eval,ih]
  | and _ _ ihl ihr => rw [Expr.eval,Expr.eval,ihl,ihr]
  | or _ _ ihl ihr => rw [Expr.eval,Expr.eval,ihl,ihr]

example : (Expr.tag "@@a").eval ["@@a"] = true ∧ (Expr.tag "@a").eval ["@@a"] = false := by decide

end ScenarioSuite.Tag
