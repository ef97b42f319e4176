import ScenarioSuite.Proofs.Placeholder.Token
import ScenarioSuite.Step.Parameter

namespace ScenarioSuite

open Text

namespace Parameter

inductive Quote
  | double
  | single
  deriving DecidableEq, Repr

namespace Quote

def char : Quote → Char
  | double => '"'
  | single => '\''

def other : Quote → Quote
  | double => single
  | single => double

def escaped (q : Quote) : List Char := ['\\',q.char]

def escape (q : Quote) (text : List Char) : List Char :=
  text.flatMap fun c => if c = q.char then q.escaped else [c]

def wrap (q : Quote) (text : List Char) : List Char := q.char :: text ++ [q.char]

theorem char_exact (c : Char) : (c = '"' ∨ c = '\'') ↔ ∃ q : Quote, c = q.char := by
  constructor
  · rintro (rfl | rfl)
    · exact ⟨double,rfl⟩
    · exact ⟨single,rfl⟩
  · rintro ⟨q,rfl⟩
    cases q
    · exact .inl rfl
    · exact .inr rfl

theorem char_ne_backslash (q : Quote) : q.char ≠ '\\' := by cases q <;> decide

theorem other_char_ne (q : Quote) : q.other.char ≠ q.char := by cases q <;> decide

theorem escaped_ne_nil (q : Quote) : q.escaped ≠ [] := by simp [escaped]

theorem escaped_starts (q : Quote) (c : Char) (text : List Char) :
    q.escaped <+: c :: text ↔ c = '\\' ∧ text.head? = some q.char := by
  cases text <;> simp [escaped,eq_comm]

theorem escape_quote (q : Quote) (text : List Char) :
    q.escape (q.char :: text) = q.escaped ++ q.escape text := by
  simp [escape]

theorem escape_over {q : Quote} {c : Char} (plain : c ≠ q.char) (text : List Char) :
    q.escape (c :: text) = c :: q.escape text := by
  simp [escape,plain]

theorem escape_head (q : Quote) (text : List Char) : (q.escape text).head? ≠ some q.char := by
  cases text with
  | nil => simp [escape]
  | cons c rest =>
      by_cases quote : c = q.char
      · rw [quote,escape_quote]
        simpa [escaped] using q.char_ne_backslash.symm
      · rw [escape_over quote]
        simpa using quote

theorem escape_other (q : Quote) (text : List Char) :
    q.escape (q.other.escaped ++ text) = q.other.escaped ++ q.escape text := by
  change q.escape ('\\' :: q.other.char :: text) = _
  rw [escape_over q.char_ne_backslash.symm,escape_over q.other_char_ne]
  rfl

theorem escape_head_other (q : Quote) (text : List Char) :
    (q.escape text).head? = some q.other.char ↔ text.head? = some q.other.char := by
  cases text with
  | nil => rfl
  | cons c rest =>
      by_cases quote : c = q.char
      · rw [quote,escape_quote]
        refine iff_of_false ?_ ?_
        · simpa [escaped] using q.other.char_ne_backslash.symm
        · simpa using q.other_char_ne.symm
      · rw [escape_over quote]
        simp

theorem replace_escape (q : Quote) (text : List Char) :
    replace q.escaped [q.char] (q.escape text) = text := by
  induction text with
  | nil => exact replace_nil _ _ q.escaped_ne_nil
  | cons c rest ih =>
      by_cases quote : c = q.char
      · rw [quote,escape_quote,replace_occurrence _ _ _ q.escaped_ne_nil,ih]
        rfl
      · have absent : ¬ q.escaped <+: c :: q.escape rest := by
          rw [escaped_starts]
          exact fun both => q.escape_head rest both.2
        rw [escape_over quote,replace_over _ q.escaped_ne_nil absent,ih]

theorem replace_other_escaped (q : Quote) (new text : List Char) :
    replace q.other.escaped new (q.escaped ++ text) = q.escaped ++ replace q.other.escaped new text := by
  have first : ¬ q.other.escaped <+: '\\' :: q.char :: text := by
    rw [escaped_starts]
    exact fun both => q.other_char_ne (Option.some.inj both.2).symm
  have second : ¬ q.other.escaped <+: q.char :: text := by
    rw [escaped_starts]
    exact fun both => q.char_ne_backslash both.1
  change replace _ _ ('\\' :: q.char :: text) = _
  rw [replace_over _ q.other.escaped_ne_nil first,replace_over _ q.other.escaped_ne_nil second]
  rfl

-- The new backslashes neither make nor hide one that stands before the other kind. By the
-- places where it is found, as each of them takes two characters along.
theorem replace_other_escape (q : Quote) (text : List Char) :
    replace q.other.escaped [q.other.char] (q.escape text) =
      q.escape (replace q.other.escaped [q.other.char] text) := by
  cases text with
  | nil =>
      rw [replace_nil _ _ q.other.escaped_ne_nil]
      rfl
  | cons c rest =>
      by_cases here : q.other.escaped <+: c :: rest
      · obtain ⟨behind,split⟩ := here
        rw [← split,escape_other,replace_occurrence _ _ _ q.other.escaped_ne_nil,
          replace_occurrence _ _ _ q.other.escaped_ne_nil,replace_other_escape q behind]
        exact (escape_over q.other_char_ne _).symm
      · rw [replace_over _ q.other.escaped_ne_nil here]
        by_cases quote : c = q.char
        · rw [quote,escape_quote,escape_quote,replace_other_escaped,replace_other_escape q rest]
        · have absent : ¬ q.other.escaped <+: c :: q.escape rest := by
            rwa [escaped_starts,escape_head_other,← escaped_starts]
          rw [escape_over quote,escape_over quote,replace_over _ q.other.escaped_ne_nil absent,
            replace_other_escape q rest]
termination_by text.length
decreasing_by
  · have shorter := congrArg List.length split
    simp only [List.length_append,List.length_cons,escaped] at shorter ⊢
    omega
  all_goals exact Nat.lt_succ_self _

theorem unescape_escape (q : Quote) (text : List Char) :
    unescape (q.escape text) = replace q.other.escaped [q.other.char] text := by
  cases q with
  | double =>
      change replace single.escaped [single.char] (replace double.escaped [double.char] _) = _
      rw [replace_escape]
      rfl
  | single =>
      change replace single.escaped [single.char]
        (replace single.other.escaped [single.other.char] _) = _
      rw [replace_other_escape,replace_escape]

theorem replace_escaped_exact (q : Quote) (text : List Char) :
    replace q.escaped [q.char] text = text ↔ ¬ q.escaped <:+: text := by
  constructor
  · intro same
    rcases replace_parts q.escaped_ne_nil [q.char] text with ⟨absent,_⟩ | ⟨before,behind,split,_,made⟩
    · exact absent
    · have parts := made.symm.trans (same.trans split)
      simp only [List.append_assoc,List.append_cancel_left_eq] at parts
      exact absurd (List.cons.inj parts).1 q.char_ne_backslash
  · exact replace_unchanged [q.char]

theorem wrap_exact (q : Quote) (text : List Char) : (∃ inner, text = q.wrap inner) ↔
    2 ≤ text.length ∧ text.head? = some q.char ∧ text.getLast? = some q.char := by
  constructor
  · rintro ⟨inner,rfl⟩
    exact ⟨by simp [wrap],rfl,List.getLast?_concat⟩
  · rintro ⟨long,first,last⟩
    obtain ⟨front,rfl⟩ := List.getLast?_eq_some_iff.mp last
    cases front with
    | nil => simp at long
    | cons c inner =>
        obtain rfl := Option.some.inj first
        exact ⟨inner,rfl⟩

end Quote

theorem unquote_exact (text inner : List Char) :
    unquote? text = some inner ↔ ∃ q : Quote, text = q.wrap inner := by
  cases text with
  | nil => simp [unquote?,Quote.wrap]
  | cons c rest =>
      simp only [unquote?,Option.ite_none_right_eq_some,Option.some.injEq,Quote.char_exact,
        List.getLast?_eq_some_iff]
      constructor
      · rintro ⟨⟨⟨q,rfl⟩,front,rfl⟩,rfl⟩
        exact ⟨q,by simp [Quote.wrap]⟩
      · rintro ⟨q,same⟩
        obtain ⟨rfl,rfl⟩ := List.cons.inj same
        exact ⟨⟨⟨q,rfl⟩,inner,rfl⟩,List.dropLast_concat⟩

theorem unquote_none (text : List Char) : unquote? text = none ↔
    text.length < 2 ∨ ∀ q : Quote, ¬ (text.head? = some q.char ∧ text.getLast? = some q.char) := by
  rw [Option.eq_none_iff_forall_ne_some]
  simp only [ne_eq,unquote_exact]
  have ends : (∀ inner, ¬ ∃ q : Quote, text = q.wrap inner) ↔
      ∀ q : Quote, ¬ ∃ inner, text = q.wrap inner := by
    simp only [not_exists]
    exact forall_comm
  rw [ends]
  simp only [Quote.wrap_exact]
  constructor
  · intro unwrapped
    rcases Nat.lt_or_ge text.length 2 with short | long
    · exact .inl short
    · exact .inr fun q both => unwrapped q ⟨long,both⟩
  · rintro (short | apart) q ⟨long,both⟩
    · omega
    · exact apart q both

theorem convert_unquoted (raw : String) :
    string.convert? raw false = some (.str (String.ofList (unescape raw.toList))) := rfl

theorem convert_wrapped (q : Quote) (inner : String) :
    string.convert? (String.ofList (q.wrap inner.toList)) true = string.convert? inner false := by
  have found := (unquote_exact (q.wrap inner.toList) inner.toList).mpr ⟨q,rfl⟩
  simp [convert?,found]

theorem convert_quoted_none (raw : String) :
    string.convert? raw true = none ↔ unquote? raw.toList = none := by
  simp [convert?]

theorem convert_escaped (q : Quote) (s : String) :
    string.convert? (String.ofList (q.escape s.toList)) false = some (.str s) ↔
      ¬ q.other.escaped <:+: s.toList := by
  rw [convert_unquoted,String.toList_ofList,Quote.unescape_escape,← Quote.replace_escaped_exact,
    Option.some.injEq,Argument.str.injEq]
  constructor
  · intro same
    exact (String.toList_ofList.symm.trans (congrArg String.toList same))
  · intro same
    rw [same,String.ofList_toList]

def Unescaped (s : String) : Prop := ∀ q : Quote, ¬ q.escaped <:+: s.toList

instance (s : String) : Decidable (Unescaped s) :=
  decidable_of_iff (∀ q ∈ [Quote.double,Quote.single], occurs q.escaped s.toList = false) (by
    simp only [← Bool.not_eq_true,occurs_exact]
    refine ⟨fun each q => each q ?_,fun all q _ => all q⟩
    cases q <;> simp)

-- A string that is written between quotes, with a backslash in front of every quote of that
-- kind, is read as it was, with the quotes around it and without them. Only backslashes in
-- front of the other kind would be lost. The quotes around a text say nothing else about it,
-- and where there are not two equal ones nothing is read.
theorem quoting_exact (q : Quote) :
    (∀ s, Unescaped s →
      string.convert? (String.ofList (q.wrap (q.escape s.toList))) true = some (.str s) ∧
      string.convert? (String.ofList (q.escape s.toList)) false = some (.str s)) ∧
    (∀ s, string.convert? (String.ofList (q.escape s.toList)) false = some (.str s) ↔
      ¬ q.other.escaped <:+: s.toList) ∧
    (∀ inner : String, string.convert? (String.ofList (q.wrap inner.toList)) true =
      string.convert? inner false) ∧
    ∀ raw : String, string.convert? raw true = none ↔ raw.length < 2 ∨ ∀ kind : Quote,
      ¬ (raw.toList.head? = some kind.char ∧ raw.toList.getLast? = some kind.char) := by
  refine ⟨fun s plain => ?_,convert_escaped q,convert_wrapped q,fun raw => ?_⟩
  · have read := (convert_escaped q s).mpr (plain q.other)
    have wrapped := convert_wrapped q (String.ofList (q.escape s.toList))
    rw [String.toList_ofList] at wrapped
    exact ⟨wrapped.trans read,read⟩
  · rw [convert_quoted_none,unquote_none,String.length_toList]

theorem quoting_exact_mixed :
    Unescaped "it's \"ok\"\\" ∧
      string.convert? "\"it's \\\"ok\\\"\\\"" true = some (.str "it's \"ok\"\\") ∧
      string.convert? "it\\'s \"ok\"\\" false = some (.str "it's \"ok\"\\") := by
  have plain : Unescaped "it's \"ok\"\\" := by decide
  have double := ((quoting_exact .double).1 _ plain).1
  have single := ((quoting_exact .single).1 _ plain).2
  exact ⟨plain,double,single⟩

example : string.convert? "\"" true = none ∧ Quote.single.escape ['\\','"'] = ['\\','"'] ∧
    unescape ['\\','"'] = ['"'] := by decide

end Parameter

end ScenarioSuite
