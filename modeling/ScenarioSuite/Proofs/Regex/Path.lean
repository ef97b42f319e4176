import ScenarioSuite.Regex.Search

namespace ScenarioSuite.Regex

inductive Instr.Leads : Instr → Int → Option Nat → Prop
  | set : Leads (.set s) 1 none
  | anchor : Leads (.anchor a) 1 none
  | save : Leads (.save slot) 1 (some slot)
  | jump : Leads (.jump offset) offset none
  | preferred : Leads (.branch preferred other) preferred none
  | other : Leads (.branch preferred other) other none

-- A place that some way through a program comes to, and the slots passed on that way, the
-- last one first. Whether the text allows the way is left open.
inductive Reaches (code : List Instr) : Nat → List Nat → Prop
  | start : Reaches code 0 []
  | step : Reaches code pc slots → code[pc]? = some instr → instr.Leads offset slot →
      Reaches code (pc + offset).toNat (slot.toList ++ slots)

def Thread.Arrived (program : Array Instr) (t : Thread) : Prop :=
  Reaches program.toList t.pc (t.marks.map Prod.fst)

def Accepted (program : Array Instr) (marks : Marks) : Prop :=
  ∃ pc, program[pc]? = some .accept ∧ Reaches program.toList pc (marks.map Prod.fst)

variable {program : Array Instr} {place : Place}

theorem arrived_jump {t : Thread} {instr : Instr} {offset : Int} (arrived : t.Arrived program)
    (here : program[t.pc]? = some instr) (leads : instr.Leads offset none) :
    (t.jump offset).Arrived program :=
  .step arrived (by rwa [Array.getElem?_toList]) leads

theorem arrived_next {t : Thread} {instr : Instr} (arrived : t.Arrived program)
    (here : program[t.pc]? = some instr) (leads : instr.Leads 1 none) : t.next.Arrived program :=
  arrived_jump arrived here leads

theorem arrived_save {t : Thread} {slot position : Nat} (arrived : t.Arrived program)
    (here : program[t.pc]? = some (.save slot)) :
    Thread.Arrived program { t.next with marks := (slot,position) :: t.marks } :=
  .step arrived (by rwa [Array.getElem?_toList]) .save

theorem follow_arrived {fuel : Nat} {frontier : Frontier} {t : Thread}
    (waiting : ∀ other ∈ frontier.waiting, other.Arrived program) (arrived : t.Arrived program) :
    ∀ other ∈ (follow program place fuel frontier t).waiting, other.Arrived program := by
  fun_induction follow program place fuel frontier t with
  | case1 | case2 => exact waiting
  | case3 _ _ _ _ _ _ offset here ih => exact ih waiting (arrived_jump arrived here .jump)
  | case4 _ _ _ _ _ _ preferred other here first second =>
      exact second (first waiting (arrived_jump arrived here .preferred))
        (arrived_jump arrived here .other)
  | case5 _ _ _ _ _ _ slot here ih => exact ih waiting (arrived_save arrived here)
  | case6 _ _ _ _ _ _ a here holds ih => exact ih waiting (arrived_next arrived here .anchor)
  | case7 => exact waiting
  | case8 =>
      intro other member
      rcases List.mem_cons.mp member with rfl | before
      · exact arrived
      · exact waiting other before

theorem gather_arrived {reached : Array Nat} {threads : List Thread}
    (arrived : ∀ t ∈ threads, t.Arrived program) :
    ∀ t ∈ (gather program place reached threads).waiting, t.Arrived program := by
  unfold gather
  have waiting : ∀ t ∈ (⟨reached,[]⟩ : Frontier).waiting, t.Arrived program := nofun
  generalize (⟨reached,[]⟩ : Frontier) = frontier at waiting ⊢
  induction threads generalizing frontier with
  | nil => exact waiting
  | cons t threads ih =>
      exact ih (fun other later => arrived other (List.mem_cons_of_mem t later)) _
        (follow_arrived waiting (arrived t List.mem_cons_self))

theorem advance_arrived {next : Option Char} {threads : List Thread}
    (arrived : ∀ t ∈ threads, t.Arrived program) :
    (∀ t ∈ (advance program next threads).1, t.Arrived program) ∧
      ∀ marks ∈ (advance program next threads).2, Accepted program marks := by
  induction threads with
  | nil => exact ⟨nofun,nofun⟩
  | cons t threads ih =>
      have own := arrived t List.mem_cons_self
      obtain ⟨onward,ended⟩ := ih fun other later => arrived other (List.mem_cons_of_mem t later)
      unfold advance
      split
      · rename_i here
        refine ⟨List.forall_mem_nil _,?_⟩
        intro marks found
        obtain rfl := Option.some.inj found
        exact ⟨t.pc,here,own⟩
      · rename_i s here
        dsimp only
        split
        · refine ⟨fun other member => ?_,ended⟩
          rcases List.mem_cons.mp member with rfl | later
          · exact arrived_next own here .set
          · exact onward other later
        · exact ⟨onward,ended⟩
      · exact ⟨onward,ended⟩

theorem place_arrived (place : Place) (reached : Array Nat) (next : Option Char)
    {threads : List Thread} (arrived : ∀ t ∈ threads, t.Arrived program) :
    let waiting := (gather program place reached threads).waiting
    (∀ t ∈ (advance program next waiting.reverse).1, t.Arrived program) ∧
      ∀ marks ∈ (advance program next waiting.reverse).2, Accepted program marks :=
  advance_arrived fun t member => gather_arrived arrived t (List.mem_reverse.mp member)

theorem starting_arrived {threads : List Thread} (found : Option Marks)
    (arrived : ∀ t ∈ threads, t.Arrived program) :
    ∀ t ∈ if found.isNone then threads ++ [⟨0,[]⟩] else threads, t.Arrived program := by
  split
  · intro t member
    rcases List.mem_append.mp member with before | new
    · exact arrived t before
    · rw [List.mem_singleton.mp new]
      exact .start
  · exact arrived

theorem or_accepted {first second : Option Marks} (left : ∀ marks ∈ first, Accepted program marks)
    (right : ∀ marks ∈ second, Accepted program marks) :
    ∀ marks ∈ first.or second, Accepted program marks := by
  intro marks either
  rcases Option.or_eq_some_iff.mp either with found | ⟨_,found⟩
  · exact left marks found
  · exact right marks found

theorem scan_accepted {position : Nat} {before : Option Char} {reached : Array Nat}
    {threads : List Thread} {found : Option Marks} {text : List Char}
    (arrived : ∀ t ∈ threads, t.Arrived program) (ended : ∀ marks ∈ found, Accepted program marks) :
    ∀ marks ∈ scan program position before reached threads found text, Accepted program marks := by
  induction text generalizing position before reached threads found with
  | nil => exact or_accepted (place_arrived _ _ _ (starting_arrived found arrived)).2 ended
  | cons c rest ih =>
      have starting := starting_arrived found arrived
      unfold scan
      generalize (if found.isNone then threads ++ [⟨0,[]⟩] else threads) = candidates at starting ⊢
      obtain ⟨onward,now⟩ := place_arrived ⟨position,before,some c⟩ reached (some c) starting
      have best := or_accepted now ended
      dsimp only
      split
      · exact best
      · exact ih onward best

theorem marks_accepted {re : Regex} {text : List Char} {marks : Marks}
    (found : re.marks? text = some marks) : Accepted re.root.program marks :=
  scan_accepted (List.forall_mem_nil _) (by simp) marks found

end ScenarioSuite.Regex
