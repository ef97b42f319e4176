import Mathlib.Algebra.Group.Int.Defs
import Mathlib.Data.List.TakeWhile
import ScenarioSuite.Proofs.Traversal
import ScenarioSuite.Step.Parameter
import ScenarioSuite.Table.Cell

namespace ScenarioSuite

namespace Text

structure Unpadded (text : List Char) : Prop where
  starts : ∀ c ∈ text.head?, isBlank c = false
  ends : ∀ c ∈ text.getLast?, isBlank c = false

structure Trimmed (text inner : List Char) : Prop where
  parts : ∃ before behind, text = before ++ inner ++ behind ∧
    (∀ c ∈ before, isBlank c = true) ∧ ∀ c ∈ behind, isBlank c = true
  unpadded : Unpadded inner

theorem unpadded_of_none {text : List Char} (none : ∀ c ∈ text, isBlank c = false) : Unpadded text :=
  ⟨fun c first => none c (List.mem_of_mem_head? first),fun c last => none c (List.mem_of_mem_getLast? last)⟩

theorem dropWhile_starts (text : List Char) :
    ∀ c ∈ (text.dropWhile isBlank).head?, isBlank c = false := by
  intro c first
  have stopped := List.head?_dropWhile_not isBlank text
  rwa [first] at stopped

theorem dropWhile_unpadded {text : List Char} (starts : ∀ c ∈ text.head?, isBlank c = false) :
    text.dropWhile isBlank = text := by
  cases text with
  | nil => rfl
  | cons c rest => exact List.dropWhile_cons_of_neg (by simp [starts c rfl])

theorem dropWhile_parts (text : List Char) :
    ∃ before, text = before ++ text.dropWhile isBlank ∧ ∀ c ∈ before, isBlank c = true :=
  ⟨text.takeWhile isBlank,List.takeWhile_append_dropWhile.symm,fun _ => List.mem_takeWhile_imp⟩

theorem trim_of_trimmed {text inner : List Char} (trimmed : Trimmed text inner) : trim text = inner := by
  obtain ⟨⟨before,behind,rfl,blank,empty⟩,starts,ends⟩ := trimmed
  rw [trim,List.append_assoc,List.dropWhile_append_of_pos blank]
  cases inner with
  | nil =>
      rw [List.nil_append,List.dropWhile_eq_nil_iff.mpr empty]
      rfl
  | cons c rest =>
      have front : ((c :: rest) ++ behind).dropWhile isBlank = (c :: rest) ++ behind :=
        dropWhile_unpadded starts
      have back : (c :: rest).reverse.dropWhile isBlank = (c :: rest).reverse :=
        dropWhile_unpadded (by rwa [List.head?_reverse])
      rw [front,List.reverse_append,List.dropWhile_append_of_pos (by simpa using empty),back,
        List.reverse_reverse]

theorem trimmed_trim (text : List Char) : Trimmed text (trim text) := by
  obtain ⟨before,split,blank⟩ := dropWhile_parts text
  obtain ⟨behind,again,empty⟩ := dropWhile_parts (text.dropWhile isBlank).reverse
  have middle : text.dropWhile isBlank = trim text ++ behind.reverse := by
    have turned := congrArg List.reverse again
    rwa [List.reverse_reverse,List.reverse_append] at turned
  refine ⟨⟨before,behind.reverse,?_,blank,by simpa using empty⟩,fun c first => ?_,fun c last => ?_⟩
  · rw [List.append_assoc,← middle]
    exact split
  · apply dropWhile_starts text c
    rw [middle,List.head?_append,first]
    rfl
  · apply dropWhile_starts (text.dropWhile isBlank).reverse c
    rwa [trim,List.getLast?_reverse] at last

theorem trim_exact (text inner : List Char) : trim text = inner ↔ Trimmed text inner := by
  constructor
  · rintro rfl
    exact trimmed_trim text
  · exact trim_of_trimmed

end Text

namespace Numeral

structure Spells (digits : List Char) (n : Nat) : Prop where
  filled : digits ≠ []
  ascii : ∀ c ∈ digits, c.isDigit = true
  value : Nat.ofDigitChars 10 digits 0 = n

inductive Denotes : List Char → Int → Prop
  | plain : Spells digits n → Denotes digits n
  | plus : Spells digits n → Denotes ('+' :: digits) n
  | minus : Spells digits n → Denotes ('-' :: digits) (-n)

theorem digitValue_exact (c : Char) (d : Nat) :
    digitValue? c = some d ↔ c.isDigit = true ∧ c.toNat - '0'.toNat = d := by
  simp only [digitValue?,Char.isDigit,Option.ite_none_right_eq_some,Option.some.injEq,Bool.and_eq_true,
    decide_eq_true_eq]
  rfl

theorem digitsValue_exact (digits : List Char) (sofar n : Nat) : digitsValue? sofar digits = some n ↔
    (∀ c ∈ digits, c.isDigit = true) ∧ Nat.ofDigitChars 10 digits sofar = n := by
  induction digits generalizing sofar with
  | nil => simp [digitsValue?]
  | cons c rest ih =>
      rw [digitsValue?,Nat.ofDigitChars_cons,List.forall_mem_cons]
      cases digit : digitValue? c with
      | none =>
          refine iff_of_false (by simp) fun both => ?_
          have read := (digitValue_exact c _).mpr ⟨both.1.1,rfl⟩
          cases digit.symm.trans read
      | some d =>
          obtain ⟨ascii,rfl⟩ := (digitValue_exact c d).mp digit
          simp only [ih,ascii,true_and]

theorem spells_exact {digits : List Char} (filled : digits ≠ []) (n : Nat) :
    Spells digits n ↔ digitsValue? 0 digits = some n := by
  rw [digitsValue_exact]
  exact ⟨fun spelled => ⟨spelled.ascii,spelled.value⟩,fun both => ⟨filled,both.1,both.2⟩⟩

theorem range_plus (m : Nat) :
    m ≤ 1 <<< 63 - 1 ↔ -2 ^ 63 ≤ (m : Int) ∧ (m : Int) < 2 ^ 63 := by
  rw [Nat.shiftLeft_eq]
  omega

theorem range_minus (m : Nat) :
    m ≤ 1 <<< 63 ↔ -2 ^ 63 ≤ -(m : Int) ∧ -(m : Int) < 2 ^ 63 := by
  rw [Nat.shiftLeft_eq]
  omega

theorem readMagnitude_signed {limit : Nat} {signed : Int → Int}
    (range : ∀ m : Nat, m ≤ limit ↔ -2 ^ 63 ≤ signed m ∧ signed m < 2 ^ 63)
    (overflow : IntegerError) {digits : List Char} (filled : digits ≠ []) (n : Int64) :
    (do let m ← readMagnitude limit overflow 0 digits; pure (m : Int)).map
        (fun m => Int64.ofInt (signed m)) = .ok n ↔
      ∃ m : Nat, Spells digits m ∧ signed m = n.toInt := by
  have lifted : ∀ read : Except IntegerError Nat,
      (do let m ← read; pure (m : Int)).map (fun m => Int64.ofInt (signed m)) =
        read.map fun m : Nat => Int64.ofInt (signed (m : Int)) := by
    intro read
    cases read <;> rfl
  rw [lifted,map_ok]
  refine exists_congr fun m => ?_
  rw [readMagnitude_exact _ _ _ _ _ (Nat.zero_le limit),← spells_exact filled,and_assoc,range]
  refine and_congr_right fun _ => ?_
  constructor
  · rintro ⟨⟨low,high⟩,rfl⟩
    exact (Int64.toInt_ofInt_of_le low high).symm
  · intro same
    rw [same,Int64.ofInt_toInt]
    exact ⟨⟨n.le_toInt,n.toInt_lt⟩,rfl⟩

theorem spells_signless {digits : List Char} {n : Nat} {c : Char} (spelled : Spells digits n)
    (first : c ∈ digits.head?) : c ≠ '+' ∧ c ≠ '-' := by
  have digit := spelled.ascii c (List.mem_of_mem_head? first)
  constructor <;> rintro rfl <;> exact absurd digit (by decide)

theorem not_denotes_nil (value : Int) : ¬ Denotes [] value := by
  intro denotes
  cases denotes with
  | plain spelled => exact spelled.filled rfl

theorem denotes_plus (digits : List Char) (value : Int) :
    Denotes ('+' :: digits) value ↔ ∃ m, Spells digits m ∧ (m : Int) = value := by
  constructor
  · intro denotes
    cases denotes with
    | plain spelled => exact absurd rfl (spells_signless spelled rfl).1
    | plus spelled => exact ⟨_,spelled,rfl⟩
  · rintro ⟨m,spelled,rfl⟩
    exact .plus spelled

theorem denotes_minus (digits : List Char) (value : Int) :
    Denotes ('-' :: digits) value ↔ ∃ m : Nat, Spells digits m ∧ -(m : Int) = value := by
  constructor
  · intro denotes
    cases denotes with
    | plain spelled => exact absurd rfl (spells_signless spelled rfl).2
    | minus spelled => exact ⟨_,spelled,rfl⟩
  · rintro ⟨m,spelled,rfl⟩
    exact .minus spelled

theorem denotes_plain {text : List Char} (plus : ∀ digits, text ≠ '+' :: digits)
    (minus : ∀ digits, text ≠ '-' :: digits) (value : Int) :
    Denotes text value ↔ ∃ m : Nat, Spells text m ∧ (m : Int) = value := by
  constructor
  · intro denotes
    cases denotes with
    | plain spelled => exact ⟨_,spelled,rfl⟩
    | plus spelled => exact absurd rfl (plus _)
    | minus spelled => exact absurd rfl (minus _)
  · rintro ⟨m,spelled,rfl⟩
    exact .plain spelled

theorem readInteger_exact (text : List Char) (n : Int64) :
    readInteger text = .ok n ↔ Denotes text n.toInt := by
  fun_cases readInteger text with
  | case1 => exact iff_of_false nofun (not_denotes_nil n.toInt)
  | case2 =>
      rw [denotes_plus]
      exact iff_of_false nofun fun ⟨_,spelled,_⟩ => spelled.filled rfl
  | case3 =>
      rw [denotes_minus]
      exact iff_of_false nofun fun ⟨_,spelled,_⟩ => spelled.filled rfl
  | case4 digits filled =>
      rw [denotes_minus]
      exact readMagnitude_signed range_minus .tooSmall filled n
  | case5 digits filled =>
      rw [denotes_plus]
      exact readMagnitude_signed range_plus .tooLarge filled n
  | case6 _ filled _ _ minus plus =>
      rw [denotes_plain plus minus]
      exact readMagnitude_signed range_plus .tooLarge filled n

theorem spells_toDigits (n : Nat) : Spells (Nat.toDigits 10 n) n :=
  ⟨Nat.toDigits_ne_nil,fun _ => Nat.isDigit_of_mem_toDigits (by decide) (by decide),
    Nat.ofDigitChars_toDigits (by decide) (by decide)⟩

theorem integerText_denotes (n : Int64) : Denotes (integerText n).toList n.toInt := by
  rw [integerText,String.toList_ofList]
  split
  · have value : -(n.toInt.natAbs : Int) = n.toInt := by omega
    exact (denotes_minus _ _).mpr ⟨_,spells_toDigits _,value⟩
  · have value : (n.toInt.natAbs : Int) = n.toInt := by omega
    have denotes := Denotes.plain (spells_toDigits n.toInt.natAbs)
    rwa [value] at denotes

theorem digit_unblank {c : Char} (digit : c.isDigit = true) : Text.isBlank c = false := by
  simp only [Char.isDigit,Bool.and_eq_true,decide_eq_true_eq] at digit
  have low : 48 ≤ c.toNat := UInt32.le_iff_toNat_le.mp digit.1
  have high : c.toNat ≤ 57 := UInt32.le_iff_toNat_le.mp digit.2
  have away : ∀ range ∈ Text.blankRanges, range.2 < 48 ∨ 57 < range.1 := by decide
  rw [← Bool.not_eq_true]
  intro blank
  obtain ⟨range,member,first,last⟩ := (Text.has_exact _ _).mp blank
  rcases away range member with below | above <;> omega

theorem denotes_unblank {text : List Char} {value : Int} (denotes : Denotes text value) :
    ∀ c ∈ text, Text.isBlank c = false := by
  cases denotes with
  | plain spelled => exact fun c member => digit_unblank (spelled.ascii c member)
  | plus spelled =>
      exact List.forall_mem_cons.mpr ⟨by decide,fun c member => digit_unblank (spelled.ascii c member)⟩
  | minus spelled =>
      exact List.forall_mem_cons.mpr ⟨by decide,fun c member => digit_unblank (spelled.ascii c member)⟩

end Numeral

open Text Numeral

theorem Cell.readInt_exact (raw : String) (cell : Cell) : Cell.readInt raw = .ok cell ↔
    ∃ n : Int64, cell = .int n ∧ Denotes (trim raw.toList) n.toInt := by
  unfold Cell.readInt
  simp only [← readInteger_exact]
  cases readInteger (trim raw.toList) <;> simp [Except.map,Except.mapError,eq_comm]

theorem Parameter.convert_int (raw : String) (quoted : Bool) (arg : Argument) :
    int.convert? raw quoted = some arg ↔
      ∃ n : Int64, arg = .int n ∧ Denotes raw.toList n.toInt := by
  simp only [← readInteger_exact]
  cases read : readInteger raw.toList <;> simp [convert?,Except.toOption,read,eq_comm]

theorem Cell.readInt_padded {before numeral behind : String} {n : Int64}
    (blank : ∀ c ∈ before.toList, isBlank c = true) (empty : ∀ c ∈ behind.toList, isBlank c = true)
    (denotes : Denotes numeral.toList n.toInt) :
    Cell.readInt (before ++ numeral ++ behind) = .ok (.int n) := by
  have trimmed : Trimmed (before ++ numeral ++ behind).toList numeral.toList :=
    ⟨⟨before.toList,behind.toList,by simp,blank,empty⟩,unpadded_of_none (denotes_unblank denotes)⟩
  refine (Cell.readInt_exact _ _).mpr ⟨n,rfl,?_⟩
  rwa [trim_of_trimmed trimmed]

theorem Cell.readInt_int (raw : String) (n : Int64) :
    Cell.readInt raw = .ok (.int n) ↔ Denotes (trim raw.toList) n.toInt := by
  simp [Cell.readInt_exact]

-- An integer in the text of a cell or of a step is what it denotes, or the text is refused,
-- as it is beyond the limits of 64 bits. Every integer is read from what it is shown as, and
-- a step is read like a cell where no blanks stand around the text.
theorem integers_exact :
    (∀ raw cell, Cell.readInt raw = .ok cell ↔ ∃ (n : Int64) (numeral : List Char),
      cell = .int n ∧ Trimmed raw.toList numeral ∧ Denotes numeral n.toInt) ∧
    (∀ raw (value : Int), (∃ n : Int64, n.toInt = value ∧ Cell.readInt raw = .ok (.int n)) ↔
      (∃ numeral, Trimmed raw.toList numeral ∧ Denotes numeral value) ∧
        -2 ^ 63 ≤ value ∧ value ≤ 2 ^ 63 - 1) ∧
    (∀ (n : Int64) (before behind : String), (∀ c ∈ before.toList, isBlank c = true) →
      (∀ c ∈ behind.toList, isBlank c = true) →
      Cell.readInt (before ++ (Cell.int n).display ++ behind) = .ok (.int n)) ∧
    ∀ raw : String, Unpadded raw.toList → ∀ quoted arg,
      Parameter.int.convert? raw quoted = some arg ↔
        ∃ n : Int64, arg = .int n ∧ Cell.readInt raw = .ok (.int n) := by
  refine ⟨?_,fun raw value => ⟨?_,?_⟩,?_,?_⟩
  · intro raw cell
    simp only [Cell.readInt_exact,← trim_exact]
    simp
  · rintro ⟨n,rfl,read⟩
    have denotes := (Cell.readInt_int raw n).mp read
    exact ⟨⟨_,trimmed_trim _,denotes⟩,n.le_toInt,Int.le_sub_one_of_lt n.toInt_lt⟩
  · rintro ⟨⟨numeral,trimmed,denotes⟩,low,high⟩
    have same : (Int64.ofInt value).toInt = value :=
      Int64.toInt_ofInt_of_le low (Int.lt_of_le_sub_one high)
    refine ⟨_,same,(Cell.readInt_int raw _).mpr ?_⟩
    rwa [same,trim_of_trimmed trimmed]
  · intro n before behind blank empty
    exact Cell.readInt_padded blank empty (integerText_denotes n)
  · intro raw unpadded quoted arg
    have whole : trim raw.toList = raw.toList :=
      trim_of_trimmed ⟨⟨[],[],by simp,nofun,nofun⟩,unpadded⟩
    simp only [Parameter.convert_int,Cell.readInt_int,whole]

theorem integers_exact_lowest :
    Cell.readInt ("\u2003" ++ (Cell.int Int64.minValue).display ++ "\t") = .ok (.int Int64.minValue) ∧
      Unpadded "+007".toList ∧ Parameter.int.convert? "+007" true = some (.int 7) := by
  obtain ⟨reads,_,shown,agrees⟩ := integers_exact
  have blank : ∀ c ∈ "\u2003".toList, isBlank c = true := List.all_eq_true.mp (by decide)
  have empty : ∀ c ∈ "\t".toList, isBlank c = true := List.all_eq_true.mp (by decide)
  have seven : Spells ['0','0','7'] 7 := ⟨nofun,List.all_eq_true.mp rfl,rfl⟩
  have denotes : Denotes "+007".toList 7 := .plus seven
  have unpadded : Unpadded "+007".toList := unpadded_of_none (denotes_unblank denotes)
  have trimmed : Trimmed "+007".toList "+007".toList := ⟨⟨[],[],by simp,nofun,nofun⟩,unpadded⟩
  refine ⟨shown _ _ _ blank empty,unpadded,?_⟩
  exact (agrees _ unpadded true _).mpr ⟨7,rfl,(reads _ _).mpr ⟨7,_,rfl,trimmed,denotes⟩⟩

example : Numeral.readInteger "9223372036854775808".toList = .error .tooLarge ∧
    Numeral.readInteger "-9223372036854775809".toList = .error .tooSmall := ⟨rfl,rfl⟩

end ScenarioSuite
