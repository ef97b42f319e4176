namespace ScenarioSuite.Text

-- Scans left to right for `old`; the first argument counts the characters of an
-- occurrence that are still to be passed over.
def replaceFrom (old new : List Char) : Nat → List Char → List Char
  | _, [] => []
  | skip + 1, _ :: rest => replaceFrom old new skip rest
  | 0, c :: rest =>
      if old.isPrefixOf (c :: rest) then new ++ replaceFrom old new (old.length - 1) rest
      else c :: replaceFrom old new 0 rest

-- Replaces every occurrence of `old`, none overlapping another. The empty text
-- occurs at every boundary, both ends included.
def replace (old new text : List Char) : List Char :=
  if old = [] then new ++ text.flatMap (· :: new) else replaceFrom old new 0 text

def replaceText (old new text : String) : String :=
  String.ofList (replace old.toList new.toList text.toList)

def occurs (part : List Char) : List Char → Bool
  | [] => part.isEmpty
  | c :: rest => part.isPrefixOf (c :: rest) || occurs part rest

theorem replaceFrom_skip (old new skipped rest : List Char) :
    replaceFrom old new skipped.length (skipped ++ rest) = replaceFrom old new 0 rest := by
  induction skipped with
  | nil => rfl
  | cons _ _ ih => simpa [replaceFrom] using ih

theorem replace_nil (old new : List Char) (h : old ≠ []) : replace old new [] = [] := by
  simp [replace,h,replaceFrom]

theorem replace_occurrence (old new rest : List Char) (h : old ≠ []) :
    replace old new (old ++ rest) = new ++ replace old new rest := by
  obtain ⟨c,tail,rfl⟩ := List.exists_cons_of_ne_nil h
  have found : (c :: tail).isPrefixOf (c :: (tail ++ rest)) = true := by
    simp [List.isPrefixOf_iff_prefix]
  simp [replace,replaceFrom,found,replaceFrom_skip]

theorem replace_step (old new rest : List Char) (c : Char) (h : old ≠ [])
    (absent : old.isPrefixOf (c :: rest) = false) :
    replace old new (c :: rest) = c :: replace old new rest := by
  simp [replace,h,replaceFrom,absent]

theorem replace_absent (old new text : List Char) (h : occurs old text = false) :
    replace old new text = text := by
  induction text with
  | nil =>
      have filled : old ≠ [] := by
        intro empty
        simp [occurs,empty] at h
      exact replace_nil old new filled
  | cons c rest ih =>
      simp only [occurs,Bool.or_eq_false_iff] at h
      have filled : old ≠ [] := by
        intro empty
        simp [empty] at h
      rw [replace_step old new rest c filled h.1,ih h.2]

end ScenarioSuite.Text
