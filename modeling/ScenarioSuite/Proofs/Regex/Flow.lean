import Mathlib.Tactic.Linarith
import Mathlib.Tactic.Ring
import Mathlib.Tactic.Positivity
import ScenarioSuite.Proofs.Regex.Path

namespace ScenarioSuite.Regex

def Instr.Stays (back ahead : Nat) (instr : Instr) : Prop :=
  instr ≠ .accept ∧ ∀ offset slot, instr.Leads offset slot → -(back : Int) ≤ offset ∧ offset ≤ ahead

theorem Instr.Stays.mono {instr : Instr} {back ahead further beyond : Nat}
    (stays : instr.Stays back ahead) (more : back ≤ further) (on : ahead ≤ beyond) :
    instr.Stays further beyond := by
  refine ⟨stays.1,fun offset slot leads => ?_⟩
  have bounds := stays.2 offset slot leads
  omega

theorem stays_next {instr : Instr} {slot : Option Nat} (next : instr.Leads 1 slot)
    (only : ∀ offset other, instr.Leads offset other → offset = 1) (back ahead : Nat) :
    instr.Stays back (ahead + 1) := by
  refine ⟨?_,fun offset other leads => ?_⟩
  · rintro rfl
    cases next
  · rw [only offset other leads]
    omega

theorem stays_set (s : CharSet) (back ahead : Nat) : (Instr.set s).Stays back (ahead + 1) :=
  stays_next .set (fun _ _ leads => by cases leads; rfl) back ahead

theorem stays_anchor (a : Anchor) (back ahead : Nat) : (Instr.anchor a).Stays back (ahead + 1) :=
  stays_next .anchor (fun _ _ leads => by cases leads; rfl) back ahead

theorem stays_save (slot back ahead : Nat) : (Instr.save slot).Stays back (ahead + 1) :=
  stays_next .save (fun _ _ leads => by cases leads; rfl) back ahead

theorem stays_jump {back ahead : Nat} {offset : Int} (low : -(back : Int) ≤ offset)
    (high : offset ≤ ahead) : (Instr.jump offset).Stays back ahead := by
  refine ⟨nofun,fun offset slot leads => ?_⟩
  cases leads
  exact ⟨low,high⟩

theorem stays_enter {back ahead : Nat} {greedy : Bool} {inside outside : Int}
    (inner : -(back : Int) ≤ inside ∧ inside ≤ ahead)
    (outer : -(back : Int) ≤ outside ∧ outside ≤ ahead) :
    (enter greedy inside outside).Stays back ahead := by
  cases greedy <;> refine ⟨nofun,fun offset slot leads => ?_⟩ <;> cases leads <;> assumption

def Within (back ahead : Nat) (code : List Instr) : Prop :=
  ∀ (place : Nat) (instr : Instr), code[place]? = some instr →
    instr.Stays (back + place) (code.length - place + ahead)

theorem within_nil (back ahead : Nat) : Within back ahead [] := nofun

theorem within_append {back ahead : Nat} {first second : List Instr}
    (left : Within back (second.length + ahead) first)
    (right : Within (back + first.length) ahead second) : Within back ahead (first ++ second) := by
  intro place instr here
  by_cases inside : place < first.length
  · rw [List.getElem?_append_left inside] at here
    exact (left place instr here).mono (Nat.le_refl _) (by rw [List.length_append]; omega)
  · rw [List.getElem?_append_right (Nat.le_of_not_lt inside)] at here
    exact (right _ instr here).mono (by omega) (by rw [List.length_append]; omega)

theorem within_single {back ahead : Nat} {instr : Instr} (stays : instr.Stays back (ahead + 1)) :
    Within back ahead [instr] := by
  intro place other here
  obtain ⟨inside,rfl⟩ := List.getElem?_eq_some_iff.mp here
  obtain rfl : place = 0 := Nat.lt_one_iff.mp inside
  exact stays.mono (Nat.le_refl _) (by rw [List.length_singleton]; omega)

theorem within_cons {back ahead : Nat} {instr : Instr} {rest : List Instr}
    (stays : instr.Stays back (rest.length + ahead + 1)) (others : Within (back + 1) ahead rest) :
    Within back ahead (instr :: rest) := by
  have first : Within back (rest.length + ahead) [instr] := within_single stays
  exact within_append first others

theorem Within.mono {back ahead further beyond : Nat} {code : List Instr}
    (within : Within back ahead code) (more : back ≤ further) (on : ahead ≤ beyond) :
    Within further beyond code :=
  fun place instr here => (within place instr here).mono (by omega) (by omega)

theorem Within.anywhere {code : List Instr} (within : Within 0 0 code) (back ahead : Nat) :
    Within back ahead code :=
  within.mono (Nat.zero_le back) (Nat.zero_le ahead)

theorem within_rounds {round : List Instr} (within : Within 0 0 round) (count : Nat) :
    Within 0 0 (List.replicate count round).flatten := by
  induction count with
  | zero => exact within_nil 0 0
  | succ count ih =>
      rw [List.replicate_succ,List.flatten_cons]
      exact within_append (within.anywhere _ _) (ih.anywhere _ _)

theorem optionalRounds_length (greedy : Bool) (round : List Instr) (count : Nat) :
    (optionalRounds greedy round count).length = (round.length + 1) * count := by
  induction count with
  | zero => rfl
  | succ count ih =>
      rw [optionalRounds,List.cons_append,List.length_cons,List.length_append,ih]
      ring

theorem within_optionalRounds {round : List Instr} (within : Within 0 0 round) (greedy : Bool)
    (count : Nat) : Within 0 0 (optionalRounds greedy round count) := by
  induction count with
  | zero => exact within_nil 0 0
  | succ count ih =>
      rw [optionalRounds,List.cons_append]
      refine within_cons (stays_enter ?_ ?_)
        (within_append (within.anywhere _ _) (ih.anywhere _ _))
      · omega
      · rw [List.length_append,optionalRounds_length]
        push_cast
        constructor
        · positivity
        · linarith

theorem within_endlessRounds {round : List Instr} (within : Within 0 0 round)
    (greedy consumes : Bool) (low : Nat) : Within 0 0 (endlessRounds greedy consumes low round) := by
  have again : Within 0 0 (round ++ [enter greedy (-(round.length : Int)) 1]) := by
    refine within_append (within.anywhere _ _) (within_single (stays_enter ?_ ?_))
    · omega
    · omega
  cases low with
  | zero =>
      unfold endlessRounds
      dsimp only
      split
      · rw [List.cons_append]
        refine within_cons (stays_enter ?_ ?_) (within_append (within.anywhere _ _)
          (within_single (stays_jump ?_ ?_)))
        · omega
        · rw [List.length_append,List.length_singleton]
          omega
        · omega
        · omega
      · refine within_cons (stays_enter ?_ ?_) (again.anywhere _ _)
        · omega
        · rw [List.length_append,List.length_singleton]
          omega
  | succ low => exact within_append ((within_rounds within low).anywhere _ _) (again.anywhere _ _)

theorem within_literal (text : List Char) : Within 0 0 (Node.literal text).code := by
  induction text with
  | nil => exact within_nil 0 0
  | cons c text ih => exact within_cons (stays_set _ _ _) (ih.anywhere _ _)

theorem node_within (n : Node) : Within 0 0 n.code := by
  induction n with
  | empty => exact within_nil 0 0
  | literal text => exact within_literal text
  | set s => exact within_single (stays_set s 0 0)
  | anchor a => exact within_single (stays_anchor a 0 0)
  | group number name body ih =>
      exact within_cons (stays_save _ _ _)
        (within_append (ih.anywhere _ _) (within_single (stays_save _ _ _)))
  | seq a b left right => exact within_append (left.anywhere _ _) (right.anywhere _ _)
  | alt a b left right =>
      have straight : enter true 1 (a.code.length + 2) = .branch 1 (a.code.length + 2) := rfl
      unfold Node.code
      dsimp only
      rw [List.cons_append,← straight]
      refine within_cons (stays_enter ?_ ?_) (within_append (left.anywhere _ _)
        (within_cons (stays_jump ?_ ?_) (right.anywhere _ _)))
      · rw [List.length_append,List.length_cons]
        omega
      · rw [List.length_append,List.length_cons]
        omega
      · omega
      · omega
  | loop low high greedy body ih =>
      unfold Node.code
      cases high with
      | none => exact within_endlessRounds ih greedy _ low
      | some high =>
          exact within_append ((within_rounds ih low).anywhere _ _)
            ((within_optionalRounds ih greedy _).anywhere _ _)

-- Conditions on the slots passed so far, one for every place of a piece of code and for its
-- end. Every instruction turns the condition of its own place into that of the next one.
structure Carried (code : List Instr) (holds : Nat → List Nat → Prop) : Prop where
  within : Within 0 0 code
  onward : ∀ {place : Nat} {instr : Instr} {offset : Int} {slot : Option Nat} {slots : List Nat},
    code[place]? = some instr → instr.Leads offset slot → holds place slots →
      holds (place + offset).toNat (slot.toList ++ slots)

def Flows (before : List Nat → Prop) (code : List Instr) (after : List Nat → Prop) : Prop :=
  ∃ holds, Carried code holds ∧ (∀ slots, before slots → holds 0 slots) ∧
    ∀ slots, holds code.length slots → after slots

def Stable (condition : List Nat → Prop) : Prop :=
  ∀ slot slots, condition slots → condition (slot :: slots)

variable {before middle after : List Nat → Prop}

theorem Carried.target {code : List Instr} {holds : Nat → List Nat → Prop}
    (carried : Carried code holds) {place : Nat} {instr : Instr} {offset : Int} {slot : Option Nat}
    (here : code[place]? = some instr) (leads : instr.Leads offset slot) :
    place < code.length ∧ 0 ≤ place + offset ∧ place + offset ≤ code.length := by
  have bounds := (carried.within place instr here).2 offset slot leads
  obtain ⟨inside,_⟩ := List.getElem?_eq_some_iff.mp here
  omega

theorem flows_stable {code : List Instr} (within : Within 0 0 code) (stable : Stable before) :
    Flows before code before := by
  refine ⟨fun _ => before,⟨within,?_⟩,fun _ => id,fun _ => id⟩
  intro place instr offset slot slots _ _ held
  cases slot with
  | none => exact held
  | some slot => exact stable slot slots held

theorem flows_save {slot : Nat} (passed : ∀ slots, before slots → after (slot :: slots)) :
    Flows before [.save slot] after := by
  refine ⟨fun place slots => if place = 0 then before slots else after slots,
    ⟨within_single (stays_save slot 0 0),?_⟩,fun _ held => held,fun _ held => held⟩
  intro place instr offset other slots here leads held
  obtain ⟨inside,rfl⟩ := List.getElem?_eq_some_iff.mp here
  obtain rfl : place = 0 := Nat.lt_one_iff.mp inside
  cases leads
  exact passed slots held

theorem flows_append {first second : List Instr} (left : Flows before first middle)
    (right : Flows middle second after) : Flows before (first ++ second) after := by
  obtain ⟨early,start,enters,leaves⟩ := left
  obtain ⟨late,rest,resumes,ends⟩ := right
  refine ⟨fun place => if place < first.length then early place else late (place - first.length),
    ⟨within_append (start.within.anywhere _ _) (rest.within.anywhere _ _),?_⟩,?_,?_⟩
  · intro place instr offset slot slots here leads held
    by_cases inside : place < first.length
    · rw [List.getElem?_append_left inside] at here
      obtain ⟨_,low,high⟩ := start.target here leads
      rw [if_pos inside] at held
      have next := start.onward here leads held
      by_cases short : (place + offset).toNat < first.length
      · rwa [if_pos short]
      · -- The end of the first piece is the start of the second, where both conditions meet.
        have seam : (place + offset).toNat = first.length := by omega
        rw [seam] at next
        rw [if_neg short,seam,Nat.sub_self]
        exact resumes _ (leaves _ next)
    · rw [List.getElem?_append_right (Nat.le_of_not_lt inside)] at here
      obtain ⟨_,low,_⟩ := rest.target here leads
      rw [if_neg inside] at held
      have next := rest.onward here leads held
      have moved : (place + offset).toNat =
          (((place - first.length : Nat) : Int) + offset).toNat + first.length := by omega
      rwa [if_neg (by omega),moved,Nat.add_sub_cancel]
  · intro slots held
    cases first with
    | nil => exact resumes slots (leaves slots (enters slots held))
    | cons => exact enters slots held
  · intro slots held
    rw [List.length_append,if_neg (by omega),Nat.add_sub_cancel_left] at held
    exact ends slots held

-- The conditions of two branches in one: the first has a branch before it and a jump behind,
-- the second ends with both.
def fork (first second : Nat) (before : List Nat → Prop) (early late : Nat → List Nat → Prop)
    (after : List Nat → Prop) (place : Nat) : List Nat → Prop :=
  if place = 0 then before
  else if place ≤ first + 1 then early (place - 1)
  else if place < first + 2 + second then late (place - (first + 2))
  else after

theorem fork_early {first second place : Nat} {early late : Nat → List Nat → Prop}
    (inside : place ≤ first) :
    fork first second before early late after (place + 1) = early place := by
  rw [fork,if_neg (by omega),if_pos (by omega),Nat.add_sub_cancel]

theorem fork_late {first second place : Nat} {early late : Nat → List Nat → Prop}
    {slots : List Nat} (inside : place ≤ second) (ends : ∀ slots, late second slots → after slots)
    (held : late place slots) :
    fork first second before early late after (first + 2 + place) slots := by
  rw [fork,if_neg (by omega),if_neg (by omega)]
  by_cases last : place = second
  · subst last
    rw [if_neg (by omega)]
    exact ends slots held
  · rwa [if_pos (by omega),Nat.add_sub_cancel_left]

theorem fork_late_only {first second place : Nat} {early late : Nat → List Nat → Prop}
    (inside : place < second) :
    fork first second before early late after (first + 2 + place) = late place := by
  rw [fork,if_neg (by omega),if_neg (by omega),if_pos (by omega),Nat.add_sub_cancel_left]

theorem fork_end {first second : Nat} {early late : Nat → List Nat → Prop} :
    fork first second before early late after (first + 2 + second) = after := by
  rw [fork,if_neg (by omega),if_neg (by omega),if_neg (by omega)]

theorem flows_alt {left right : Node} (first : Flows before left.code after)
    (second : Flows before right.code after) : Flows before (Node.alt left right).code after := by
  obtain ⟨early,start,enters,leaves⟩ := first
  obtain ⟨late,rest,resumes,ends⟩ := second
  refine ⟨fork left.code.length right.code.length before early late after,
    ⟨node_within _,?_⟩,fun _ => id,?_⟩
  · intro place instr offset slot slots here leads held
    obtain _ | place := place
    · -- The branch in front, to either of the two pieces.
      obtain rfl := Option.some.inj here
      cases leads with
      | preferred => exact enters slots held
      | other =>
          have target : (((0 : Nat) : Int) + (left.code.length + 2)).toNat = left.code.length + 2 + 0 := by
            omega
          rw [target]
          exact fork_late (Nat.zero_le _) ends (resumes slots held)
    · have behind : (left.code ++ .jump (right.code.length + 1) :: right.code)[place]? = some instr :=
        here
      rcases Nat.lt_trichotomy place left.code.length with inside | last | beyond
      · rw [List.getElem?_append_left inside] at behind
        obtain ⟨_,low,high⟩ := start.target behind leads
        rw [fork_early (Nat.le_of_lt inside)] at held
        have target : (((place + 1 : Nat) : Int) + offset).toNat = (place + offset).toNat + 1 := by
          omega
        rw [target,fork_early (by omega)]
        exact start.onward behind leads held
      · -- The jump between them, which leads behind the second one.
        subst last
        rw [fork_early (Nat.le_refl _)] at held
        rw [List.getElem?_append_right (Nat.le_refl _),Nat.sub_self] at behind
        obtain rfl := Option.some.inj behind
        cases leads
        have target : (((left.code.length + 1 : Nat) : Int) + (right.code.length + 1)).toNat =
            left.code.length + 2 + right.code.length := by omega
        rw [target,fork_end]
        exact leaves slots held
      · -- Inside the second piece, which starts two places behind the end of the first.
        obtain ⟨inner,rfl⟩ := Nat.exists_eq_add_of_lt beyond
        rw [List.getElem?_append_right (by omega)] at behind
        have own : right.code[inner]? = some instr := by
          have shift : left.code.length + inner + 1 - left.code.length = inner + 1 := by omega
          rwa [shift,List.getElem?_cons_succ] at behind
        obtain ⟨inside,low,high⟩ := rest.target own leads
        have shifted : left.code.length + inner + 1 + 1 = left.code.length + 2 + inner := by omega
        have target : (((left.code.length + inner + 1 + 1 : Nat) : Int) + offset).toNat =
            left.code.length + 2 + (inner + offset).toNat := by omega
        rw [shifted,fork_late_only inside] at held
        rw [target]
        exact fork_late (by omega) ends (rest.onward own leads held)
  · intro slots held
    have size : (Node.alt left right).code.length = left.code.length + 2 + right.code.length := by
      simp [Node.code]
      omega
    rwa [size,fork_end] at held

theorem flows_group {number : Nat} {name : Option String} {body : Node} (stable : Stable before) :
    Flows before (Node.group number name body).code fun slots =>
      before slots ∧ 2 * number ∈ slots ∧ 2 * number + 1 ∈ slots := by
  have opened : Stable fun slots => before slots ∧ 2 * number ∈ slots :=
    fun slot slots held => ⟨stable slot slots held.1,List.mem_cons_of_mem slot held.2⟩
  have start : Flows before [.save (2 * number)] fun slots => before slots ∧ 2 * number ∈ slots :=
    flows_save fun slots held => ⟨stable _ slots held,List.mem_cons_self⟩
  refine flows_append (flows_append start (flows_stable (node_within body) opened)) ?_
  refine flows_save fun slots held => ⟨stable _ slots held.1,?_,List.mem_cons_self⟩
  exact List.mem_cons_of_mem _ held.2

theorem Flows.mono {code : List Instr} (flows : Flows before code middle)
    (weaker : ∀ slots, middle slots → after slots) : Flows before code after := by
  obtain ⟨holds,carried,enters,leaves⟩ := flows
  exact ⟨holds,carried,enters,fun slots held => weaker slots (leaves slots held)⟩

theorem reaches_carried {code : List Instr} {holds : Nat → List Nat → Prop}
    (carried : Carried code holds) (start : holds 0 []) {pc : Nat} {slots : List Nat}
    (reaches : Reaches (code ++ [.accept]) pc slots) : pc ≤ code.length ∧ holds pc slots := by
  induction reaches with
  | start => exact ⟨Nat.zero_le _,start⟩
  | @step pc slots instr offset slot _ here leads ih =>
      obtain ⟨inside,held⟩ := ih
      by_cases last : pc = code.length
      · subst last
        rw [List.getElem?_append_right (Nat.le_refl _),Nat.sub_self] at here
        obtain rfl := Option.some.inj here
        cases leads
      · rw [List.getElem?_append_left (by omega)] at here
        obtain ⟨_,low,high⟩ := carried.target here leads
        exact ⟨by omega,carried.onward here leads held⟩

theorem accepted_flows {root : Node} {marks : Marks} (stable : Stable after)
    (flows : Flows (fun _ => True) root.code after) (accepted : Accepted root.program marks) :
    after (marks.map Prod.fst) := by
  have start : Flows (fun _ => True) [.save 0] fun _ => True := flows_save fun _ _ => trivial
  have whole : Flows (fun _ => True) (Instr.save 0 :: root.code ++ [.save 1]) after :=
    flows_append (flows_append start flows) (flows_save fun slots held => stable 1 slots held)
  obtain ⟨holds,carried,enters,leaves⟩ := whole
  obtain ⟨pc,last,reaches⟩ := accepted
  have program : root.program.toList = (Instr.save 0 :: root.code ++ [.save 1]) ++ [.accept] := by
    simp [Node.program]
  rw [← Array.getElem?_toList,program] at last
  rw [program] at reaches
  obtain ⟨inside,held⟩ := reaches_carried carried (enters [] trivial) reaches
  refine leaves _ ?_
  by_cases before : pc < (Instr.save 0 :: root.code ++ [Instr.save 1]).length
  · rw [List.getElem?_append_left before] at last
    exact absurd rfl (carried.within pc _ last).1
  · rwa [← Nat.le_antisymm inside (Nat.le_of_not_lt before)]

end ScenarioSuite.Regex
