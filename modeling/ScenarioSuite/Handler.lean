namespace ScenarioSuite

structure Location where
  path : String
  line : Nat
  column : Nat
  deriving DecidableEq, Repr

namespace Location

def text (l : Location) : String := l.path ++ ":" ++ toString l.line ++ ":" ++ toString l.column

def le (a b : Location) : Bool :=
  if a.path ≠ b.path then a.path < b.path
  else if a.line ≠ b.line then a.line < b.line
  else a.column ≤ b.column

end Location

-- The error of a handler: what it says, and what the errors it wraps say, from the
-- outside in.
structure Cause where
  message : String
  sources : List String
  deriving DecidableEq, Repr

def Cause.chain (c : Cause) : List String := c.message :: c.sources

def Cause.inner? (c : Cause) : Option Cause :=
  match c.sources with
  | [] => none
  | message :: sources => some ⟨message,sources⟩

def Cause.ofMessages (messages : List String) : Cause :=
  match messages.reverse with
  | [] => ⟨"",[]⟩
  | outermost :: wrapped => ⟨outermost,wrapped⟩

-- What a panic leaves behind. Only a text can be shown.
inductive Payload
  | text (message : String)
  | other
  deriving DecidableEq, Repr

def Payload.message : Payload → String
  | .text message => message
  | .other => "Unknown panic payload"

inductive Outcome
  | passed
  | failed (cause : Cause)
  | panicked (payload : Payload)
  deriving DecidableEq, Repr

end ScenarioSuite
