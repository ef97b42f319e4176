import ScenarioSuite.Text.Ranges

namespace ScenarioSuite.Tag

inductive Expr
  | tag (name : String)
  | not (operand : Expr)
  | and (left right : Expr)
  | or (left right : Expr)
  deriving DecidableEq, Repr

-- Leaves out one sign, so `@@a` is the tag `@a`.
def bareChars : List Char → List Char
  | '@' :: rest => rest
  | name => name

def bare (tag : String) : String := String.ofList (bareChars tag.toList)

def Expr.eval : Expr → List String → Bool
  | .tag name, tags => tags.any fun tag => bare tag == bare name
  | .not operand, tags => !operand.eval tags
  | .and left right, tags => left.eval tags && right.eval tags
  | .or left right, tags => left.eval tags || right.eval tags

theorem eval_tag (name : String) (tags : List String) :
    (Expr.tag name).eval tags = true ↔ bare name ∈ tags.map bare := by
  simp [Expr.eval]

inductive Expected
  | literal (text : String)
  | character
  | tagCharacter
  | escapedCharacter
  | escapedEnd
  | endOfText
  deriving DecidableEq, Repr

def Expected.label : Expected → String
  | .literal text => "\"" ++ text ++ "\""
  | .character => "_"
  | .tagCharacter => "tag character"
  | .escapedCharacter => "escaped non-reserved char"
  | .escapedEnd => "escaped end of line"
  | .endOfText => "EOF"

abbrev Misses := List (Nat × Expected)

structure Cursor where
  position : Nat
  rest : List Char
  deriving DecidableEq, Repr

def Cursor.skip (c : Cursor) (count : Nat) : Cursor := ⟨c.position + count,c.rest.drop count⟩

def Cursor.skipBlanks (c : Cursor) : Cursor :=
  c.skip (c.rest.takeWhile fun x => x == ' ' || x == '\t').length

abbrev Attempt (α : Type) := Option (α × Cursor) × Misses

def Attempt.map {α β : Type} (f : α → β) (a : Attempt α) : Attempt β :=
  (a.1.map fun found => (f found.1,found.2),a.2)

def Attempt.orElse {α : Type} (a : Attempt α) (b : Unit → Attempt α) : Attempt α :=
  match a with
  | (some found,misses) => (some found,misses)
  | (none,misses) =>
      let (found,more) := b ()
      (found,misses ++ more)

def Attempt.andThen {α β : Type} (a : Attempt α) (b : α → Cursor → Attempt β) : Attempt β :=
  match a with
  | (none,misses) => (none,misses)
  | (some (x,c),misses) =>
      let (found,more) := b x c
      (found,misses ++ more)

def literal (text : String) (c : Cursor) : Attempt Unit :=
  if text.toList.isPrefixOf c.rest then (some ((),c.skip text.length),[])
  else (none,[(c.position,.literal text)])

def escapable (c : Char) : Bool := c == '\\' || c == '(' || c == ')' || c == ' '

def refused (c : Char) : Bool := Text.isBlank c || c == '@' || c == '(' || c == ')' || c == '\\'

-- The characters of a tag up to the one that ends it. `started` tells whether there
-- are any, a backslash included; `complete` fails for a backslash at the very end.
structure Name where
  text : List Char
  started : Bool
  complete : Bool
  cursor : Cursor
  misses : Misses
  deriving DecidableEq, Repr

def Name.begin (n : Name) (text : List Char) : Name :=
  { n with text := text ++ n.text, started := true }

-- A backslash without a character to escape ends the tag right behind itself.
def readTagName (escaped : Bool) (position : Nat) : List Char → Name
  | [] =>
      let dangling := if escaped then [(position,Expected.escapedEnd)] else []
      ⟨[],false,!escaped,⟨position,[]⟩,(position,.character) :: dangling⟩
  | c :: rest =>
      if escaped then
        if escapable c then (readTagName false (position + 1) rest).begin [c]
        else ⟨[],false,true,⟨position,c :: rest⟩,[(position + 1,.escapedCharacter)]⟩
      else if c == '\\' then (readTagName true (position + 1) rest).begin []
      else if refused c then ⟨[],false,true,⟨position,c :: rest⟩,[(position + 1,.tagCharacter)]⟩
      else (readTagName false (position + 1) rest).begin [c]

def tag (c : Cursor) : Attempt Expr :=
  (literal "@" c).andThen fun _ c =>
    let name := readTagName false c.position c.rest
    let found := if name.started && name.complete then
        some (Expr.tag (String.ofList name.text),name.cursor)
      else none
    (found,name.misses)

-- Every operator takes the whole rest as its right operand. The first argument
-- bounds the nesting; each level starts behind a character of the one around it.
def operation : Nat → Cursor → Attempt Expr
  | 0, _ => (none,[])
  | depth + 1, c =>
      let negation := (literal "not" c).andThen fun _ c =>
        Attempt.map Expr.not (operation depth c.skipBlanks)
      let group (_ : Unit) := (literal "(" c).andThen fun _ c =>
        (operation depth c).andThen fun inner c =>
          (literal ")" c).andThen fun _ c => (some (inner,c.skipBlanks),[])
      let operand := (negation.orElse fun _ => tag c).orElse group
      operand.andThen fun left c =>
        let continued (word : String) (combine : Expr → Expr → Expr) :=
          (literal word c.skipBlanks).andThen fun _ c =>
            Attempt.map (combine left) (operation depth c.skipBlanks)
        ((continued "and" .and).orElse fun _ => continued "or" .or).orElse
          fun _ => (some (left,c),[])

structure Misfit where
  line : Nat
  column : Nat
  expected : List Expected
  deriving DecidableEq, Repr

def Misfit.labels (m : Misfit) : List String :=
  ((m.expected.map Expected.label).eraseDups).mergeSort fun a b => decide (a ≤ b)

def Misfit.message (m : Misfit) : String :=
  let expectation := match m.labels with
    | [label] => label
    | labels => "one of " ++ ", ".intercalate labels
  "error at " ++ toString m.line ++ ":" ++ toString m.column ++ ": expected " ++ expectation

-- Of all that was missed only the furthest place counts.
def Misfit.ofMisses (text : List Char) (misses : Misses) : Misfit :=
  let furthest := misses.foldl (fun far miss => max far miss.1) 0
  let passed := text.take furthest
  ⟨1 + passed.count '\n',1 + (passed.reverse.takeWhile (· != '\n')).length,
    (misses.filter fun miss => miss.1 == furthest).map Prod.snd⟩

def parse (source : String) : Except Misfit Expr :=
  let text := source.toList
  match operation (text.length + 1) ⟨0,text⟩ with
  | (some (expr,⟨_,[]⟩),_) => .ok expr
  | (some (_,⟨position,_⟩),misses) => .error (.ofMisses text ((position,.endOfText) :: misses))
  | (none,misses) => .error (.ofMisses text misses)

end ScenarioSuite.Tag
