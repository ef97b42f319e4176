import Mathlib.Data.List.Forall2
import ScenarioSuite.Step.Matcher

namespace ScenarioSuite.Matcher

def groupName (index : Nat) (kind : String) : String := "__" ++ toString index ++ "_" ++ kind

-- What one parameter has among the groups of a match, and what they hold: one group without
-- a name, or groups that bear its number.
inductive Portion
  | whole (value : Option String)
  | run (first : String × Option String) (rest : List (String × Option String))
  deriving DecidableEq, Repr

namespace Portion

def groups (index : Nat) : Portion → List (Option String × Option String)
  | whole value => [(none,value)]
  | run first rest => (first :: rest).map fun group => (some (groupName index group.1),group.2)

def value : Portion → Option String
  | whole value => value
  | run first rest => (first :: rest).findSome? Prod.snd

def quoted : Portion → Bool
  | whole _ => true
  | run .. => false

def convert? (portion : Portion) (p : Parameter) : Option Argument :=
  portion.value.bind fun raw => p.convert? raw portion.quoted

def slot (index : Nat) : Portion → Slot
  | whole value => ⟨none,value⟩
  | run first rest => ⟨some (toString index).toList,(first :: rest).findSome? Prod.snd⟩

theorem slot_value (index : Nat) (portion : Portion) : (portion.slot index).value = portion.value := by
  cases portion <;> rfl

theorem slot_quoted (index : Nat) (portion : Portion) : (portion.slot index).quoted = portion.quoted := by
  cases portion <;> rfl

end Portion

def spread (index : Nat) : List Portion → List (Option String × Option String)
  | [] => []
  | portion :: portions => portion.groups index ++ spread (index + 1) portions

def slotsFrom (index : Nat) : List Portion → List Slot
  | [] => []
  | portion :: portions => portion.slot index :: slotsFrom (index + 1) portions

theorem slotsFrom_length (index : Nat) (portions : List Portion) :
    (slotsFrom index portions).length = portions.length := by
  induction portions generalizing index with
  | nil => rfl
  | cons portion portions ih => rw [slotsFrom,List.length_cons,List.length_cons,ih]

theorem slotsFrom_uses (index : Nat) (portions : List Portion) :
    (slotsFrom index portions).map (fun slot => (slot.value,slot.quoted)) =
      portions.map fun portion => (portion.value,portion.quoted) := by
  induction portions generalizing index with
  | nil => rfl
  | cons portion portions ih =>
      rw [slotsFrom,List.map_cons,List.map_cons,ih,Portion.slot_value,Portion.slot_quoted]

theorem digits_plain {index : Nat} {c : Char} (member : c ∈ (toString index).toList) : c ≠ '_' := by
  rw [Nat.toString_eq_repr,Nat.toList_repr] at member
  have digit := Nat.isDigit_of_mem_toDigits (by decide) (by decide) member
  rintro rfl
  exact absurd digit (by decide)

theorem digits_injective {index other : Nat}
    (same : (toString index).toList = (toString other).toList) : index = other := by
  rw [Nat.toString_eq_repr,Nat.toString_eq_repr,Nat.toList_repr,Nat.toList_repr] at same
  have value := congrArg (Nat.ofDigitChars 10 · 0) same
  simpa [Nat.ofDigitChars_toDigits] using value

theorem groupOwner_named (index : Nat) (kind : String) :
    groupOwner? (some (groupName index kind)) = some (toString index).toList := by
  have text : (groupName index kind).toList =
      '_' :: '_' :: ((toString index).toList ++ '_' :: kind.toList) := by
    simp [groupName]
  have digits : ((toString index).toList ++ '_' :: kind.toList).takeWhile (· != '_') =
      (toString index).toList := by
    rw [List.takeWhile_append_of_pos fun c member => by simpa using digits_plain member]
    simp
  simp only [groupOwner?,text,digits]

def Behind (index : Nat) (slots : List Slot) : Prop :=
  ∀ slot ∈ slots.head?, ∀ later, index ≤ later → slot.owner ≠ some (toString later).toList

theorem behind_slot (index : Nat) (portion : Portion) (slots : List Slot) :
    Behind (index + 1) (portion.slot index :: slots) := by
  intro slot head later after same
  obtain rfl := Option.some.inj head
  cases portion with
  | whole value => cases same
  | run first rest =>
      have equal := digits_injective (Option.some.inj same)
      omega

theorem addGroup_opens {index : Nat} {slots : List Slot} (behind : Behind index slots) (kind : String)
    (value : Option String) : addGroup slots (some (groupName index kind),value) =
      ⟨some (toString index).toList,value⟩ :: slots := by
  simp only [addGroup,groupOwner_named]
  split
  · rename_i previous value rest
    have foreign := behind _ rfl index (Nat.le_refl index)
    rw [if_neg fun same => foreign (congrArg some same)]
  · rfl

theorem addGroup_joins (index : Nat) (slots : List Slot) (kind : String) (held value : Option String) :
    addGroup (⟨some (toString index).toList,held⟩ :: slots) (some (groupName index kind),value) =
      ⟨some (toString index).toList,held.or value⟩ :: slots := by
  simp only [addGroup,groupOwner_named,if_true]

theorem or_findSome (held : Option String) (first : String × Option String)
    (rest : List (String × Option String)) :
    (held.or first.2).or (rest.findSome? Prod.snd) = held.or ((first :: rest).findSome? Prod.snd) := by
  rw [Option.or_assoc,List.findSome?_cons]
  cases first.2 <;> rfl

theorem foldl_run (index : Nat) (slots : List Slot) (held : Option String)
    (rest : List (String × Option String)) :
    (rest.map fun group => (some (groupName index group.1),group.2)).foldl addGroup
        (⟨some (toString index).toList,held⟩ :: slots) =
      ⟨some (toString index).toList,held.or (rest.findSome? Prod.snd)⟩ :: slots := by
  induction rest generalizing held with
  | nil => simp
  | cons group rest ih => rw [List.map_cons,List.foldl_cons,addGroup_joins,ih,or_findSome]

theorem foldl_portion {index : Nat} {slots : List Slot} (behind : Behind index slots)
    (portion : Portion) : (portion.groups index).foldl addGroup slots = portion.slot index :: slots := by
  cases portion with
  | whole value => rfl
  | run first rest =>
      rw [Portion.groups,List.map_cons,List.foldl_cons,addGroup_opens behind,foldl_run]
      have joined := or_findSome none first rest
      rw [Option.none_or,Option.none_or] at joined
      rw [joined]
      rfl

theorem foldl_spread {index : Nat} {slots : List Slot} (behind : Behind index slots)
    (portions : List Portion) :
    (spread index portions).foldl addGroup slots = (slotsFrom index portions).reverse ++ slots := by
  induction portions generalizing index slots with
  | nil => rfl
  | cons portion portions ih =>
      rw [spread,List.foldl_append,foldl_portion behind,ih (behind_slot index portion slots),slotsFrom]
      simp

theorem slots_spread (portions : List Portion) : slots (spread 0 portions) = slotsFrom 0 portions := by
  have nothing : Behind 0 [] := nofun
  rw [slots,foldl_spread nothing]
  simp

theorem wholes_append (first second : List (Option String × Option String)) :
    wholes (first ++ second) = wholes first ++ wholes second := by
  simp [wholes]

theorem wholes_portion (index : Nat) (portion : Portion) :
    wholes (portion.groups index) = [portion.slot index].filter Slot.quoted := by
  cases portion with
  | whole value => rfl
  | run first rest =>
      have named : ∀ group ∈ Portion.groups index (.run first rest),
          ¬ (groupOwner? group.1).isNone = true := by
        intro group member
        obtain ⟨own,_,rfl⟩ := List.mem_map.mp member
        simp [groupOwner_named]
      rw [wholes,List.filter_eq_nil_iff.mpr named]
      rfl

theorem wholes_spread (index : Nat) (portions : List Portion) :
    wholes (spread index portions) = (slotsFrom index portions).filter Slot.quoted := by
  induction portions generalizing index with
  | nil => rfl
  | cons portion portions ih =>
      rw [spread,wholes_append,wholes_portion,ih,← List.filter_append]
      rfl

-- As many unnamed groups as parameters are there only if all groups are such; then both
-- ways to take values come to the same.
theorem valuesFor_spread (portions : List Portion) :
    valuesFor portions.length (spread 0 portions) = some (slotsFrom 0 portions) := by
  have chosen : (if (wholes (spread 0 portions)).length = portions.length then
      wholes (spread 0 portions) else slots (spread 0 portions)) = slotsFrom 0 portions := by
    rw [wholes_spread,slots_spread]
    split
    · rename_i many
      rw [← slotsFrom_length 0 portions] at many
      exact List.filter_eq_self.mpr (List.length_filter_eq_length_iff.mp many)
    · rfl
  simp only [valuesFor,chosen]
  exact if_pos (slotsFrom_length 0 portions)

theorem convertAll_slotsFrom (index : Nat) (parameters : List Parameter) (portions : List Portion) :
    convertAll parameters (slotsFrom index portions) =
      (parameters.zip portions).mapM fun pair => pair.2.convert? pair.1 := by
  unfold convertAll
  induction parameters generalizing index portions with
  | nil => rfl
  | cons p parameters ih =>
      cases portions with
      | nil => rfl
      | cons portion portions =>
          rw [slotsFrom,List.zip_cons_cons,List.zip_cons_cons,List.mapM_cons,List.mapM_cons,ih]
          simp only [Portion.slot_value,Portion.slot_quoted]
          rfl

theorem mapM_isSome {α β : Type} {f : α → Option β} {l : List α} :
    (l.mapM f).isSome ↔ ∀ x ∈ l, (f x).isSome := by
  induction l with
  | nil => simp
  | cons x l ih =>
      rw [List.forall_mem_cons,← ih,List.mapM_cons]
      cases f x with
      | none => simp
      | some y => cases l.mapM f <;> simp

theorem mapM_some {α β : Type} {f : α → Option β} {l : List α} {out : List β} :
    l.mapM f = some out ↔ List.Forall₂ (fun x y => f x = some y) l out := by
  induction l generalizing out with
  | nil => cases out <;> simp
  | cons x l ih =>
      rw [List.mapM_cons]
      cases out with
      | nil => cases f x <;> cases l.mapM f <;> simp
      | cons y out =>
          rw [List.forall₂_cons,← ih]
          cases f x <;> cases l.mapM f <;> simp

theorem mapM_none {α β : Type} {f : α → Option β} {l : List α} :
    l.mapM f = none ↔ ∃ x ∈ l, f x = none := by
  rw [← Option.not_isSome_iff_eq_none,mapM_isSome]
  simp

theorem arguments_spread {m : Matcher} (typed : m.typed = true) {portions : List Portion}
    (each : portions.length = m.parameters.length) : m.arguments (spread 0 portions) =
      (m.parameters.zip portions).mapM fun pair => pair.2.convert? pair.1 := by
  rw [arguments,if_pos typed,← each,valuesFor_spread,Option.bind_some,convertAll_slotsFrom]

theorem Portion.convert_none {portion : Portion} {p : Parameter} : portion.convert? p = none ↔
    portion.value = none ∨ ∃ raw, portion.value = some raw ∧ p.convert? raw portion.quoted = none := by
  unfold Portion.convert?
  cases portion.value <;> simp

-- Every parameter that has its own portion of the groups gets one value from it, whatever
-- the portions beside it are like. There are no arguments if a portion took no part in the
-- match or its value does not convert, and otherwise they are the values converted in order.
theorem regrouping_exact (m : Matcher) (typed : m.typed = true) (portions : List Portion)
    (each : portions.length = m.parameters.length) :
    (∃ used, valuesFor m.parameters.length (spread 0 portions) = some used ∧
      used.map (fun slot => (slot.value,slot.quoted)) =
        portions.map fun portion => (portion.value,portion.quoted)) ∧
    (m.arguments (spread 0 portions) = none ↔ ∃ pair ∈ m.parameters.zip portions,
      pair.2.value = none ∨
        ∃ raw, pair.2.value = some raw ∧ pair.1.convert? raw pair.2.quoted = none) ∧
    (∀ args, m.arguments (spread 0 portions) = some args ↔ List.Forall₂ (fun pair arg =>
      ∃ raw, pair.2.value = some raw ∧ pair.1.convert? raw pair.2.quoted = some arg)
        (m.parameters.zip portions) args) ∧
    ∀ text values, m.regex.captures? text = some values →
      m.regex.groupNames.zip values = spread 0 portions →
        m.captures? text = m.arguments (spread 0 portions) := by
  refine ⟨⟨slotsFrom 0 portions,each ▸ valuesFor_spread portions,slotsFrom_uses 0 portions⟩,?_,?_,?_⟩
  · rw [arguments_spread typed each,mapM_none]
    simp only [Portion.convert_none]
  · intro args
    rw [arguments_spread typed each,mapM_some]
    simp only [Portion.convert?,Option.bind_eq_some_iff]
  · intro text values captured laid
    rw [captures?,captured,← laid]
    rfl

def stringAndWord : Matcher :=
  ⟨⟨"",.seq (.alt (.group 1 (some "__0_a") (.literal ['a'])) (.alt
      (.group 2 (some "__0_b") (.literal ['b'])) (.group 3 (some "__0_c") .empty)))
    (.group 4 none (.literal ['d']))⟩,[.string,.word],true⟩

theorem regrouping_exact_empty :
    stringAndWord.captures? "d" = some [.str "",.word "d"] := by
  let portions : List Portion := [.run ("a",none) [("b",none),("c",some "")],.whole (some "d")]
  have captured : stringAndWord.regex.captures? "d" = some [none,none,some "",some "d"] := by
    decide +kernel
  have laid : stringAndWord.regex.groupNames.zip [none,none,some "",some "d"] =
      spread 0 portions := rfl
  obtain ⟨_,_,converted,applied⟩ := regrouping_exact stringAndWord rfl portions rfl
  rw [applied _ _ captured laid]
  exact (converted _).mpr (.cons ⟨"",rfl,rfl⟩ (.cons ⟨"d",rfl,rfl⟩ .nil))

example : (Matcher.mk stringAndWord.regex [.string,.string] true).arguments
    (spread 0 [.run ("0",none) [("1",some "a")],.whole (some "'b'")]) =
      some [.str "a",.str "b"] := rfl

end ScenarioSuite.Matcher
