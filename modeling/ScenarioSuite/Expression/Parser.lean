import ScenarioSuite.Expression.Basic

namespace ScenarioSuite.Expression

abbrev Reading (α : Type) := Except Fault (α × List Char)

def inParameter (c : Char) : Bool :=
  c != '\x7b' && c != '\x7d' && c != '(' && c != '\\' && c != '/'

def inOptional (c : Char) : Bool :=
  c != '(' && c != ')' && c != '\x7b' && c != '\\' && c != '/'

def inText (c : Char) : Bool :=
  c != ' ' && c != '(' && c != '\x7b' && c != '\\' && c != '/'

-- Reads a run of plain characters and escaped reserved ones. `start` is the text from
-- the start of the run; a backslash at the very end is reported with it.
def scanFrom (plain : Char → Bool) (start : List Char) : List Char → Reading (List Char)
  | [] => .ok ([],[])
  | '\\' :: rest =>
      match rest with
      | [] =>
          if start.length = 1 then .error (.malformed .escapedEnd start)
          else .error (.malformed .escapedNonReserved (start.take 2))
      | c :: rest =>
          if reserved c then
            match scanFrom plain start rest with
            | .ok (run,after) => .ok ('\\' :: c :: run,after)
            | .error fault => .error fault
          else .error (.malformed .escapedNonReserved ['\\',c])
  | c :: rest =>
      if plain c then
        match scanFrom plain start rest with
        | .ok (run,after) => .ok (c :: run,after)
        | .error fault => .error fault
      else .ok ([],c :: rest)

def scan (plain : Char → Bool) (text : List Char) : Reading (List Char) := scanFrom plain text text

def parameterAt? : List Char → Option (List Char × List Char)
  | '\x7b' :: rest =>
      match scan inParameter rest with
      | .ok (name,'\x7d' :: after) => some (name,after)
      | _ => none
  | _ => none

def optionalAt? : List Char → Option (List Char × List Char)
  | '(' :: rest =>
      match scan inOptional rest with
      | .ok (raw,')' :: after) => if raw = [] then none else some (raw,after)
      | _ => none
  | _ => none

def closes (plain : Char → Bool) (closing : Char) (text : List Char) : Bool :=
  match scan plain text with
  | .ok (_,c :: _) => c == closing
  | _ => false

def parameterFlaw (text : List Char) : Fault :=
  match text with
  | [] => .malformed .unfinishedParameter ['\x7b']
  | c :: _ =>
      if c = '\x7b' then
        match parameterAt? text with
        | some (name,after) =>
            if closes inParameter '\x7d' after then
              .malformed .nestedParameter (Part.parameter name).source
            else .malformed .unescapedReserved [c]
        | none => .malformed .unescapedReserved [c]
      else if c = '(' then
        match optionalAt? text with
        | some (raw,_) => .malformed .optionalInParameter (Part.optional raw).source
        | none => .malformed .unescapedReserved [c]
      else if reserved c then .malformed .unescapedReserved [c]
      else .malformed .unfinishedParameter ['\x7b']

def optionalFlaw (text : List Char) : Fault :=
  match text with
  | [] => .malformed .unfinishedOptional ['(']
  | c :: _ =>
      if c = '(' then
        match optionalAt? text with
        | some (raw,after) =>
            if closes inOptional ')' after then
              .malformed .nestedOptional (Part.optional raw).source
            else .malformed .unescapedReserved [c]
        | none => .malformed .unescapedReserved [c]
      else if c = '\x7b' then
        match parameterAt? text with
        | some (name,_) => .malformed .parameterInOptional (Part.parameter name).source
        | none => .malformed .unescapedReserved [c]
      else if c = '/' then .malformed .alternationInOptional [c]
      else if reserved c then .malformed .unescapedReserved [c]
      else .malformed .unfinishedOptional ['(']

def readParameter (text : List Char) : Reading (List Char) :=
  match scan inParameter text with
  | .error fault => .error fault
  | .ok (name,'\x7d' :: after) => .ok (name,after)
  | .ok (_,after) => .error (parameterFlaw after)

def readOptional (text : List Char) : Reading (List Char) :=
  match scan inOptional text with
  | .error fault => .error fault
  | .ok (raw,')' :: after) =>
      if raw = [] then .error (.malformed .emptyOptional ['(',')']) else .ok (raw,after)
  | .ok (_,after) => .error (optionalFlaw after)

-- Reads optionals and texts as long as there are any. Each takes at least one
-- character, so the length of the text bounds their number.
def readBranch : Nat → List Char → Reading (List Alternative)
  | 0, text => .ok ([],text)
  | fuel + 1, '(' :: rest =>
      match readOptional rest with
      | .error fault => .error fault
      | .ok (raw,after) =>
          match readBranch fuel after with
          | .error fault => .error fault
          | .ok (branch,after) => .ok (.optional raw :: branch,after)
  | fuel + 1, text =>
      match scan inText text with
      | .error fault => .error fault
      | .ok ([],_) => .ok ([],text)
      | .ok (raw,after) =>
          match readBranch fuel after with
          | .error fault => .error fault
          | .ok (branch,after) => .ok (.text raw :: branch,after)

def readBranches : Nat → List Char → Reading (List (List Alternative))
  | fuel + 1, '/' :: rest =>
      match readBranch (rest.length + 1) rest with
      | .error fault => .error fault
      | .ok ([],_) => .error (.malformed .emptyAlternation ['/'])
      | .ok (branch,after) =>
          match readBranches fuel after with
          | .error fault => .error fault
          | .ok (branches,after) => .ok (branch :: branches,after)
  | _, text => .ok ([],text)

def readAlternation (text : List Char) : Reading (List (List Alternative)) :=
  match readBranch (text.length + 1) text with
  | .error fault => .error fault
  | .ok ([],_) =>
      if text.head? = some '/' then .error (.malformed .emptyAlternation ['/'])
      else .ok ([],text)
  | .ok (first,rest) =>
      match readBranches (rest.length + 1) rest with
      | .error fault => .error fault
      | .ok ([],_) => .ok ([],text)
      | .ok (more,after) =>
          if (first :: more).any fun branch => branch.all Alternative.isOptional then
            .error (.malformed .onlyOptionalInAlternation (text.take (text.length - after.length)))
          else .ok (first :: more,after)

def readPart (text : List Char) : Reading Part :=
  match readAlternation text with
  | .error fault => .error fault
  | .ok (first :: more,after) => .ok (.alternation (first :: more),after)
  | .ok ([],_) =>
      match text with
      | '(' :: rest =>
          match readOptional rest with
          | .error fault => .error fault
          | .ok (raw,after) => .ok (.optional raw,after)
      | '\x7b' :: rest =>
          match readParameter rest with
          | .error fault => .error fault
          | .ok (name,after) => .ok (.parameter name,after)
      | ' ' :: rest =>
          .ok (.blanks (1 + (rest.takeWhile (· == ' ')).length),rest.dropWhile (· == ' '))
      | _ =>
          match scan inText text with
          | .error fault => .error fault
          | .ok (raw,after) => .ok (.text raw,after)

-- Every part takes at least one character, so the length of the text bounds the
-- number of parts.
def readParts : Nat → List Char → Except Fault (List Part)
  | _, [] => .ok []
  | 0, _ => .ok []
  | fuel + 1, text =>
      match readPart text with
      | .error fault => .error fault
      | .ok (part,after) =>
          match readParts fuel after with
          | .error fault => .error fault
          | .ok parts => .ok (part :: parts)

def parse (text : List Char) : Except Fault (List Part) := readParts text.length text

end ScenarioSuite.Expression
