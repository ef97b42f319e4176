import ScenarioSuite.Outline

namespace ScenarioSuite

namespace Text

theorem occurs_exact (part text : List Char) : occurs part text = true ↔ part <:+: text := by
  induction text with
  | nil => simp [occurs]
  | cons c rest ih => simp [occurs,ih,List.infix_cons_iff,List.isPrefixOf_iff_prefix]

theorem replace_unchanged {old text : List Char} (new : List Char) (absent : ¬ old <:+: text) :
    replace old new text = text := by
  apply replace_absent
  rw [← Bool.not_eq_true,occurs_exact]
  exact absent

theorem replace_over {old rest : List Char} (new : List Char) {c : Char} (filled : old ≠ [])
    (absent : ¬ old <+: c :: rest) : replace old new (c :: rest) = c :: replace old new rest := by
  apply replace_step old new rest c filled
  rw [← Bool.not_eq_true,List.isPrefixOf_iff_prefix]
  exact absent

-- A text beside what becomes of it. Occurrences are found from left to right, so none
-- lies wholly in front of the one that is found next.
inductive Replaced (old new : List Char) : List Char → List Char → Prop
  | clear {text : List Char} (absent : ¬ old <:+: text) : Replaced old new text text
  | found {before behind result : List Char} (absent : ¬ old <:+: before)
      (rest : Replaced old new behind result) :
      Replaced old new (before ++ old ++ behind) (before ++ new ++ result)

theorem replace_parts {old : List Char} (filled : old ≠ []) (new text : List Char) :
    (¬ old <:+: text ∧ replace old new text = text) ∨
    ∃ before behind, text = before ++ old ++ behind ∧ ¬ old <:+: before ∧
      replace old new text = before ++ new ++ replace old new behind := by
  induction text with
  | nil => exact .inl ⟨by simpa using filled,replace_nil old new filled⟩
  | cons c rest ih =>
      by_cases here : old <+: c :: rest
      · obtain ⟨behind,split⟩ := here
        refine .inr ⟨[],behind,split.symm,by simpa using filled,?_⟩
        rw [← split,replace_occurrence old new behind filled]
        rfl
      · have ahead := replace_over new filled here
        rcases ih with ⟨absent,same⟩ | ⟨before,behind,split,absent,same⟩
        · refine .inl ⟨?_,by rw [ahead,same]⟩
          rw [List.infix_cons_iff]
          exact not_or.mpr ⟨here,absent⟩
        · refine .inr ⟨c :: before,behind,by rw [split]; rfl,?_,by rw [ahead,same]; rfl⟩
          rw [List.infix_cons_iff]
          refine not_or.mpr ⟨?_,absent⟩
          intro start
          apply here
          rw [split,List.append_assoc]
          exact start.trans (List.prefix_append (c :: before) _)

theorem replace_replaced {old : List Char} (filled : old ≠ []) (new text : List Char) :
    Replaced old new text (replace old new text) := by
  rcases replace_parts filled new text with ⟨absent,same⟩ | ⟨before,behind,split,absent,same⟩
  · rw [same]
    exact .clear absent
  · rw [same,split]
    exact .found absent (replace_replaced filled new behind)
termination_by text.length
decreasing_by
  have start := List.length_pos_iff.mpr filled
  subst split
  simp only [List.length_append]
  omega

def Plain (text : List Char) : Prop := '<' ∉ text ∧ '>' ∉ text

instance (text : List Char) : Decidable (Plain text) :=
  inferInstanceAs (Decidable ('<' ∉ text ∧ '>' ∉ text))

end Text

namespace Substitution

open Text

theorem token_ne_nil (column : String) : token column ≠ [] := by simp [token]

theorem token_append (column : String) (text : List Char) :
    token column ++ text = '<' :: (column.toList ++ '>' :: text) := by
  simp [token]

theorem opens_token (column : String) : '<' ∈ token column := by simp [token]

theorem closes_token (column : String) : '>' ∈ token column := by simp [token]

theorem token_injective {a b : String} (same : token a = token b) : a = b := by
  simp only [token,List.cons_append,List.cons.injEq,true_and] at same
  exact String.toList_injective (List.append_cancel_right same)

theorem token_unopened {column : String} (plain : Plain column.toList) {front back : List Char}
    (split : token column = front ++ back) (begun : front ≠ []) : '<' ∉ back := by
  obtain ⟨c,tail,rfl⟩ := List.exists_cons_of_ne_nil begun
  simp only [token,List.cons_append,List.cons.injEq] at split
  intro member
  have inside : '<' ∈ column.toList ++ ['>'] := by
    rw [split.2]
    exact List.mem_append_right tail member
  simp [plain.1] at inside

theorem token_unclosed {column : String} (plain : Plain column.toList) {front back : List Char}
    (split : token column = front ++ back) (open_end : back ≠ []) : '>' ∉ front := by
  obtain ⟨middle,c,rfl⟩ := List.eq_nil_or_concat back |>.resolve_left open_end
  rw [List.concat_eq_append,← List.append_assoc,token] at split
  have same := (List.append_inj' split rfl).1
  intro member
  have inside : '>' ∈ '<' :: column.toList := by
    rw [same]
    exact List.mem_append_left middle member
  simp [plain.2] at inside

theorem token_opened {column : String} {front back : List Char}
    (split : token column = front ++ back) (begun : front ≠ []) : '<' ∈ front := by
  obtain ⟨c,tail,rfl⟩ := List.exists_cons_of_ne_nil begun
  simp only [token,List.cons_append,List.cons.injEq] at split
  rw [split.1]
  exact List.mem_cons_self

theorem token_in_token {a b : String} (plain : Plain b.toList) (inside : token a <:+: token b) :
    a = b := by
  obtain ⟨front,back,split⟩ := inside
  have atStart : front = [] := by
    apply Decidable.byContradiction
    intro begun
    rw [List.append_assoc] at split
    exact token_unopened plain split.symm begun (List.mem_append_left back (opens_token a))
  have atEnd : back = [] := by
    apply Decidable.byContradiction
    intro left_over
    exact token_unclosed plain split.symm left_over (List.mem_append_right front (closes_token a))
  rw [atStart,atEnd,List.nil_append,List.append_nil] at split
  exact token_injective split

theorem tokens_apart {a b : String} (plainA : Plain a.toList) (plainB : Plain b.toList)
    (distinct : a ≠ b) {front back : List Char} (inside : token a <:+: front ++ token b ++ back) :
    token a <:+: front ∨ token a <:+: back := by
  rw [List.append_assoc,List.infix_append_iff_ne_nil,List.infix_append_iff_ne_nil] at inside
  rcases inside with early | (within | late | ⟨p,q,begun,open_end,split,suffix,_⟩)
    | ⟨p,q,begun,open_end,split,_,start⟩
  · exact .inl early
  · exact absurd (token_in_token plainB within) distinct
  · exact .inr late
  · -- A part of the token of `b` would be its whole, and so would close before its end.
    obtain ⟨front,whole⟩ := suffix
    have all : front = [] := by
      apply Decidable.byContradiction
      intro skipped
      exact token_unopened plainB whole.symm skipped (token_opened split begun)
    rw [all,List.nil_append] at whole
    exact absurd (whole ▸ closes_token b) (token_unclosed plainA split open_end)
  · obtain ⟨rest,whole⟩ := start
    obtain ⟨c,tail,rfl⟩ := List.exists_cons_of_ne_nil open_end
    simp only [token,List.cons_append,List.cons.injEq] at whole
    exact absurd (whole.1 ▸ List.mem_cons_self) (token_unopened plainA split begun)

theorem token_behind {column : String} {front back : List Char} (unopened : '<' ∉ front)
    (inside : token column <:+: front ++ back) : token column <:+: back := by
  rw [List.infix_append_iff_ne_nil] at inside
  rcases inside with early | late | ⟨p,q,begun,_,split,suffix,_⟩
  · exact absurd (early.mem (opens_token column)) unopened
  · exact late
  · exact absurd (suffix.mem (token_opened split begun)) unopened

theorem token_absent {column : String} {text : List Char} (unclosed : '>' ∉ text) :
    ¬ token column <:+: text := fun inside => unclosed (inside.mem (closes_token column))

theorem token_heads {column : String} {c : Char} {rest : List Char} (other : c ≠ '<') :
    ¬ token column <+: c :: rest := by
  rintro ⟨back,split⟩
  simp only [token,List.cons_append,List.cons.injEq] at split
  exact other split.1.symm

theorem replace_unopened {column : String} {front : List Char} (unopened : '<' ∉ front)
    (value text : List Char) :
    replace (token column) value (front ++ text) = front ++ replace (token column) value text := by
  induction front with
  | nil => rfl
  | cons c rest ih =>
      have other : c ≠ '<' := fun same => unopened (same ▸ List.mem_cons_self)
      have tail := ih fun member => unopened (List.mem_cons_of_mem c member)
      rw [List.cons_append,replace_over value (token_ne_nil column) (token_heads other),tail]
      rfl

theorem replace_other {a b : String} (plainA : Plain a.toList) (plainB : Plain b.toList)
    (distinct : a ≠ b) (value text : List Char) :
    replace (token a) value (token b ++ text) = token b ++ replace (token a) value text := by
  have absent : ¬ token a <+: token b ++ text := by
    intro start
    rcases List.prefix_or_prefix_of_prefix start (List.prefix_append (token b) text) with first | second
    · exact distinct (token_in_token plainB first.isInfix)
    · exact distinct (token_in_token plainA second.isInfix).symm
  have unopened : '<' ∉ b.toList ++ ['>'] := by simpa using plainB.1
  have name_first : ∀ rest, b.toList ++ '>' :: rest = b.toList ++ ['>'] ++ rest := by simp
  rw [token_append] at absent ⊢
  rw [replace_over value (token_ne_nil a) absent,name_first,replace_unopened unopened,
    ← name_first,← token_append]

end Substitution

end ScenarioSuite
