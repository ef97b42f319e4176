import ScenarioSuite.Step.Matcher

namespace ScenarioSuite.Expression

-- An expression as far as it tells parameters from other text: a backslash takes the
-- reserved character behind it, and an opening brace without one starts a parameter, which
-- the next closing brace ends.
inductive Reads : List Char → List (List Char) → Prop
  | done : Reads [] []
  | escaped : reserved c = true → Reads rest names → Reads ('\\' :: c :: rest) names
  | parameter : '\x7d' ∉ name → Reads rest names →
      Reads ('\x7b' :: (name ++ '\x7d' :: rest)) (name :: names)
  | plain : c ≠ '\\' → c ≠ '\x7b' → Reads rest names → Reads (c :: rest) names

theorem reserved_newline {c : Char} (escapes : reserved c = true) : c ≠ '\n' := by
  rintro rfl
  exact absurd escapes (by decide)

theorem bracedNames_name {name : List Char} (unopened : '\x7b' ∉ name) (unclosed : '\x7d' ∉ name)
    (rest : List Char) :
    bracedNames ('\x7b' :: (name ++ '\x7d' :: rest)) = name :: bracedNames rest := by
  have inside : ∀ c ∈ name, (c != '\x7b' && c != '\x7d') = true := by
    intro c member
    have notOpening : c ≠ '\x7b' := fun same => unopened (same ▸ member)
    have notClosing : c ≠ '\x7d' := fun same => unclosed (same ▸ member)
    simp [notOpening,notClosing]
  have taken : (name ++ '\x7d' :: rest).takeWhile (fun c => c != '\x7b' && c != '\x7d') = name := by
    rw [List.takeWhile_append_of_pos inside]
    simp
  rw [bracedNames]
  simp [taken]

theorem bracedNames_reads {text : List Char} {names : List (List Char)} (reads : Reads text names)
    (known : ∀ name ∈ names, '\x7b' ∉ name) : bracedNames text = names := by
  induction reads with
  | done => rw [bracedNames]
  | escaped escapes reads ih =>
      rw [bracedNames,if_neg (reserved_newline escapes)]
      exact ih known
  | @parameter name rest names unclosed reads ih =>
      rw [bracedNames_name (known name List.mem_cons_self) unclosed,
        ih fun other member => known other (List.mem_cons_of_mem name member)]
  | plain unescaped unopened reads ih =>
      rw [bracedNames]
      · exact ih known
      · rintro c rest rfl
        exact absurd rfl unescaped
      · exact unopened

example : bracedNames "a \\\x7bint\\\x7d and \x7bint\x7d".toList = ["int".toList] := by cbv

inductive Run (plain : Char → Bool) : List Char → Prop
  | done : Run plain []
  | escaped : reserved c = true → Run plain rest → Run plain ('\\' :: c :: rest)
  | char : c ≠ '\\' → plain c = true → Run plain rest → Run plain (c :: rest)

theorem scanFrom_run {plain : Char → Bool} {start text run after : List Char}
    (scanned : scanFrom plain start text = .ok (run,after)) :
    Run plain run ∧ text = run ++ after := by
  fun_induction scanFrom plain start text generalizing run after with
  | case1 =>
      cases scanned
      exact ⟨.done,rfl⟩
  | case4 c rest escapes more behind scannedRest ih =>
      cases scanned
      obtain ⟨runs,rfl⟩ := ih scannedRest
      exact ⟨.escaped escapes runs,rfl⟩
  | case7 c rest unescaped accepted more behind scannedRest ih =>
      cases scanned
      obtain ⟨runs,rfl⟩ := ih scannedRest
      exact ⟨.char unescaped accepted runs,rfl⟩
  | case9 c rest unescaped refused =>
      cases scanned
      exact ⟨.done,rfl⟩
  | case2 | case3 | case5 | case6 | case8 => cases scanned

theorem scanFrom_nothing {plain : Char → Bool} {c : Char} {start rest after : List Char}
    (scanned : scanFrom plain start (c :: rest) = .ok ([],after)) : c ≠ '\\' ∧ plain c = false := by
  by_cases escape : c = '\\'
  · subst escape
    cases rest with
    | nil =>
        rw [scanFrom] at scanned
        split at scanned <;> cases scanned
    | cons next rest =>
        rw [scanFrom] at scanned
        repeat' split at scanned
        all_goals cases scanned
  · rw [scanFrom] at scanned
    · split at scanned
      · split at scanned <;> cases scanned
      · rename_i refused
        exact ⟨escape,by simpa using refused⟩
    · exact escape

def Silent (text : List Char) : Prop :=
  ∀ rest names, Reads rest names → Reads (text ++ rest) names

theorem silent_nil : Silent [] := fun _ _ reads => reads

theorem silent_append {first rest : List Char} (left : Silent first) (right : Silent rest) :
    Silent (first ++ rest) := by
  intro more names reads
  rw [List.append_assoc]
  exact left _ _ (right _ _ reads)

theorem silent_char {c : Char} (unescaped : c ≠ '\\') (unopened : c ≠ '\x7b') : Silent [c] :=
  fun _ _ reads => .plain unescaped unopened reads

theorem silent_flatMap {α : Type} {f : α → List Char} {l : List α}
    (silent : ∀ x ∈ l, Silent (f x)) : Silent (l.flatMap f) := by
  induction l with
  | nil => exact silent_nil
  | cons x l ih =>
      rw [List.flatMap_cons]
      exact silent_append (silent x List.mem_cons_self)
        (ih fun y member => silent y (List.mem_cons_of_mem x member))

theorem Run.silent {plain : Char → Bool} {text : List Char} (run : Run plain text)
    (unopened : plain '\x7b' = false) : Silent text := by
  induction run with
  | done => exact silent_nil
  | escaped escapes _ ih => exact fun rest names reads => .escaped escapes (ih rest names reads)
  | char unescaped accepted _ ih =>
      refine fun rest names reads => .plain unescaped ?_ (ih rest names reads)
      rintro rfl
      simp [unopened] at accepted

def Alternative.Formed : Alternative → Prop
  | .text raw => Run inText raw
  | .optional raw => Run inOptional raw

def Part.Formed : Part → Prop
  | .text raw => Run inText raw
  | .blanks _ => True
  | .optional raw => Run inOptional raw
  | .alternation branches => ∀ branch ∈ branches, ∀ a ∈ branch, a.Formed
  | .parameter name => Run inParameter name

theorem readParameter_parts {text name after : List Char}
    (read : readParameter text = .ok (name,after)) :
    Run inParameter name ∧ text = name ++ '\x7d' :: after := by
  unfold readParameter at read
  split at read
  · cases read
  · rename_i scanned
    cases read
    exact scanFrom_run scanned
  · cases read

theorem readOptional_parts {text raw after : List Char}
    (read : readOptional text = .ok (raw,after)) :
    Run inOptional raw ∧ text = raw ++ ')' :: after := by
  unfold readOptional at read
  split at read
  · cases read
  · rename_i scanned
    split at read
    · cases read
    · cases read
      exact scanFrom_run scanned
  · cases read

theorem readBranch_parts {fuel : Nat} {text after : List Char} {branch : List Alternative}
    (read : readBranch fuel text = .ok (branch,after)) :
    (∀ a ∈ branch, a.Formed) ∧ text = branchSource branch ++ after := by
  fun_induction readBranch fuel text generalizing branch after with
  | case1 =>
      cases read
      exact ⟨by simp,rfl⟩
  | case4 fuel rest raw behind optional more end_ readMore ih =>
      cases read
      obtain ⟨formed,rfl⟩ := ih readMore
      obtain ⟨run,rfl⟩ := readOptional_parts optional
      refine ⟨?_,by simp [branchSource,Alternative.source]⟩
      intro a member
      rcases List.mem_cons.mp member with rfl | later
      · exact run
      · exact formed a later
  | case6 fuel text unopened end_ scanned =>
      cases read
      exact ⟨by simp,rfl⟩
  | case8 fuel text unopened raw behind something scanned more end_ readMore ih =>
      cases read
      obtain ⟨formed,rfl⟩ := ih readMore
      obtain ⟨run,rfl⟩ := scanFrom_run scanned
      refine ⟨?_,by simp [branchSource,Alternative.source]⟩
      intro a member
      rcases List.mem_cons.mp member with rfl | later
      · exact run
      · exact formed a later
  | case2 | case3 | case5 | case7 => cases read

theorem readBranches_parts {fuel : Nat} {text after : List Char}
    {branches : List (List Alternative)} (read : readBranches fuel text = .ok (branches,after)) :
    (∀ branch ∈ branches, ∀ a ∈ branch, a.Formed) ∧
      text = branches.flatMap (fun branch => '/' :: branchSource branch) ++ after := by
  fun_induction readBranches fuel text generalizing branches after with
  | case4 fuel rest branch behind something readFirst more last readMore ih =>
      cases read
      obtain ⟨formed,rfl⟩ := ih readMore
      obtain ⟨own,rfl⟩ := readBranch_parts readFirst
      refine ⟨?_,by simp⟩
      intro other member
      rcases List.mem_cons.mp member with rfl | later
      · exact own
      · exact formed other later
  | case5 fuel text stop =>
      cases read
      exact ⟨by simp,rfl⟩
  | case1 | case2 | case3 => cases read

theorem alternation_source (first : List Alternative) (more : List (List Alternative)) :
    (Part.alternation (first :: more)).source =
      branchSource first ++ more.flatMap fun branch => '/' :: branchSource branch := by
  induction more generalizing first with
  | nil => simp [Part.source,List.intercalate]
  | cons second more ih =>
      have joined : (Part.alternation (first :: second :: more)).source =
          branchSource first ++ '/' :: (Part.alternation (second :: more)).source := by
        simp [Part.source,List.intercalate]
      rw [joined,ih]
      simp

theorem readAlternation_slash (rest : List Char) :
    readAlternation ('/' :: rest) = .error (.malformed .emptyAlternation ['/']) := by
  simp [readAlternation,readBranch,scan,scanFrom,inText]

theorem readAlternation_parts {text after : List Char} {branches : List (List Alternative)}
    (read : readAlternation text = .ok (branches,after)) :
    branches = [] ∨ ∃ first second more, branches = first :: second :: more ∧
      (Part.alternation branches).Formed ∧ text = (Part.alternation branches).source ++ after := by
  unfold readAlternation at read
  split at read
  · cases read
  · split at read <;> cases read
    exact .inl rfl
  · rename_i first behind something readFirst
    split at read
    · cases read
    · cases read
      exact .inl rfl
    · rename_i more last several readMore
      split at read
      · cases read
      · cases read
        obtain ⟨own,rfl⟩ := readBranch_parts readFirst
        obtain ⟨formed,rfl⟩ := readBranches_parts readMore
        cases more with
        | nil => exact absurd rfl several
        | cons second more =>
            refine .inr ⟨first,second,more,rfl,?_,?_⟩
            · intro branch member
              rcases List.mem_cons.mp member with rfl | later
              · exact own
              · exact formed branch later
            · rw [alternation_source,List.append_assoc]

theorem blanks_parts (rest : List Char) :
    ' ' :: rest = (Part.blanks (1 + (rest.takeWhile (· == ' ')).length)).source ++
      rest.dropWhile (· == ' ') := by
  have run : rest.takeWhile (· == ' ') =
      List.replicate (rest.takeWhile (· == ' ')).length ' ' := by
    refine List.eq_replicate_iff.mpr ⟨rfl,fun c member => ?_⟩
    simpa using List.all_eq_true.mp List.all_takeWhile c member
  rw [Part.source,Nat.add_comm,List.replicate_succ,← run,List.cons_append,
    List.takeWhile_append_dropWhile]

-- Where no other part starts, a text takes something: only a slash would stop it at once,
-- and there is no alternation that starts with one.
theorem scan_something {text after : List Char} {more : List Char} (filled : text ≠ [])
    (single : readAlternation text = .ok ([],more))
    (noOptional : ∀ rest, text = '(' :: rest → False)
    (noParameter : ∀ rest, text = '\x7b' :: rest → False)
    (noBlank : ∀ rest, text = ' ' :: rest → False) : scan inText text ≠ .ok ([],after) := by
  intro scanned
  cases text with
  | nil => exact filled rfl
  | cons c rest =>
      obtain ⟨unescaped,refused⟩ := scanFrom_nothing scanned
      have stops : c = ' ' ∨ c = '(' ∨ c = '\x7b' ∨ c = '/' := by
        simp only [inText,Bool.and_eq_false_iff,bne_eq_false_iff_eq] at refused
        simpa [unescaped,or_assoc] using refused
      rcases stops with rfl | rfl | rfl | rfl
      · exact noBlank rest rfl
      · exact noOptional rest rfl
      · exact noParameter rest rfl
      · rw [readAlternation_slash] at single
        cases single

theorem readPart_parts {text after : List Char} {part : Part} (filled : text ≠ [])
    (read : readPart text = .ok (part,after)) :
    part.Formed ∧ text = part.source ++ after ∧ part.source ≠ [] := by
  unfold readPart at read
  split at read
  · cases read
  · rename_i readFirst
    cases read
    rcases readAlternation_parts readFirst with none | ⟨first,second,more,branches,formed,parts⟩
    · cases none
    · refine ⟨formed,parts,?_⟩
      rw [branches,alternation_source]
      simp
  · rename_i single
    split at read
    · split at read
      · cases read
      · rename_i optional
        cases read
        obtain ⟨run,rfl⟩ := readOptional_parts optional
        exact ⟨run,by simp [Part.source],by simp [Part.source]⟩
    · split at read
      · cases read
      · rename_i parameter
        cases read
        obtain ⟨run,rfl⟩ := readParameter_parts parameter
        exact ⟨run,by simp [Part.source],by simp [Part.source]⟩
    · cases read
      exact ⟨trivial,blanks_parts _,by simp [Part.source]⟩
    · rename_i noOptional noParameter noBlank
      split at read
      · cases read
      · -- A text is the last resort; all that is left to see is that it is not empty.
        rename_i raw behind scanned
        cases read
        obtain ⟨run,parts⟩ := scanFrom_run scanned
        refine ⟨run,parts,?_⟩
        rintro rfl
        exact scan_something filled single noOptional noParameter noBlank scanned

theorem readParts_parts {fuel : Nat} {text : List Char} {parts : List Part}
    (enough : text.length ≤ fuel) (read : readParts fuel text = .ok parts) :
    (∀ part ∈ parts, part.Formed) ∧ text = parts.flatMap Part.source := by
  fun_induction readParts fuel text generalizing parts with
  | case1 =>
      cases read
      exact ⟨by simp,rfl⟩
  | case2 text filled => exact absurd (List.length_eq_zero_iff.mp (Nat.le_zero.mp enough)) filled
  | case5 fuel text filled part after readFirst more readMore ih =>
      cases read
      obtain ⟨own,rfl,something⟩ := readPart_parts filled readFirst
      have shorter : after.length ≤ fuel := by
        have positive : 0 < part.source.length := List.length_pos_iff.mpr something
        rw [List.length_append] at enough
        omega
      obtain ⟨formed,rest⟩ := ih shorter readMore
      refine ⟨?_,by rw [List.flatMap_cons,← rest]⟩
      intro other member
      rcases List.mem_cons.mp member with rfl | later
      · exact own
      · exact formed other later
  | case3 | case4 => cases read

theorem parse_parts {text : List Char} {parts : List Part} (read : parse text = .ok parts) :
    (∀ part ∈ parts, part.Formed) ∧ text = parts.flatMap Part.source :=
  readParts_parts (Nat.le_refl _) read

theorem optional_silent {raw : List Char} (run : Run inOptional raw) :
    Silent ('(' :: raw ++ [')']) :=
  silent_append (silent_append (silent_char (by decide) (by decide)) (run.silent (by decide)))
    (silent_char (by decide) (by decide))

theorem branch_silent {branch : List Alternative} (formed : ∀ a ∈ branch, a.Formed) :
    Silent (branchSource branch) := by
  refine silent_flatMap fun a member => ?_
  cases a with
  | text raw => exact (formed _ member).silent (by decide)
  | optional raw => exact optional_silent (formed _ member)

theorem part_reads {part : Part} (formed : part.Formed)
    (closed : ∀ name, part.parameter? = some name → '\x7d' ∉ name) {rest : List Char}
    {names : List (List Char)} (reads : Reads rest names) :
    Reads (part.source ++ rest) (part.parameter?.toList ++ names) := by
  cases part with
  | text raw => exact formed.silent (by decide) rest names reads
  | blanks count =>
      have silent : Silent ((List.replicate count ' ').flatMap fun c => [c]) := by
        refine silent_flatMap fun c member => ?_
        rw [List.eq_of_mem_replicate member]
        exact silent_char (by decide) (by decide)
      rw [List.flatMap_singleton'] at silent
      exact silent rest names reads
  | optional raw => exact optional_silent formed rest names reads
  | alternation branches =>
      cases branches with
      | nil => exact reads
      | cons first more =>
          rw [alternation_source]
          refine silent_append (branch_silent (formed first List.mem_cons_self))
            (silent_flatMap fun branch member => ?_) rest names reads
          exact silent_append (silent_char (by decide) (by decide))
            (branch_silent (formed branch (List.mem_cons_of_mem first member)))
  | parameter name =>
      have unclosed := closed name rfl
      simpa [Part.source,Part.parameter?] using Reads.parameter unclosed reads

theorem parts_reads {parts : List Part} (formed : ∀ part ∈ parts, part.Formed)
    (closed : ∀ name ∈ parameterNames parts, '\x7d' ∉ name) :
    Reads (parts.flatMap Part.source) (parameterNames parts) := by
  induction parts with
  | nil => exact .done
  | cons part parts ih =>
      have names : parameterNames (part :: parts) =
          part.parameter?.toList ++ parameterNames parts := by
        unfold parameterNames
        cases found : part.parameter? <;> simp [found]
      rw [names] at closed ⊢
      rw [List.flatMap_cons]
      refine part_reads (formed part List.mem_cons_self) ?_ (ih ?_ ?_)
      · intro name own
        exact closed name (by simp [own])
      · exact fun other member => formed other (List.mem_cons_of_mem part member)
      · exact fun name member => closed name (List.mem_append_right _ member)

theorem parse_reads {text : List Char} {parts : List Part} (read : parse text = .ok parts)
    (closed : ∀ name ∈ parameterNames parts, '\x7d' ∉ name) :
    Reads text (parameterNames parts) := by
  obtain ⟨formed,whole⟩ := parse_parts read
  rw [whole]
  exact parts_reads formed closed

end ScenarioSuite.Expression
