import ScenarioSuite.Glue.Basic

namespace ScenarioSuite

inductive Entry (N : Type)
  | note (value : N)
  | callText (text : String)
  | args (values : List Argument)
  | number (value : Int64)
  | str (value : String)
  | table (value : Option Table)
  | docstring (value : Option String)
  deriving Repr

structure Journal (N : Type) where
  log : List (Entry N)
  total : Int64
  deriving Repr

variable {N : Type}

def Journal.empty : Journal N := ⟨[],0⟩

def Journal.write (j : Journal N) (entry : Entry N) : Journal N :=
  { j with log := j.log ++ [entry] }

inductive Action (N : Type)
  | note (value : N)
  | callText
  | args
  | int (n : Nat)
  | str (n : Nat)
  | table
  | docstring
  | add (n : Nat)
  | check (n : Nat)
  | parse (text : String)
  | fail (messages : List String)
  | panic (payload : Payload)
  deriving DecidableEq, Repr

namespace Action

def failWith (message : String) : Outcome := .failed ⟨message,[]⟩

def withValue {α : Type} (value : Except String α) (journal : Journal N)
    (f : α → Outcome × Journal N) : Outcome × Journal N :=
  match value with
  | .ok x => f x
  | .error message => (failWith message,journal)

def run (call : Call) (j : Journal N) : Action N → Outcome × Journal N
  | note value => (.passed,j.write (.note value))
  | callText => (.passed,j.write (.callText call.text))
  | args => (.passed,j.write (.args call.args))
  | int n => withValue (call.int n) j fun x => (.passed,j.write (.number x))
  | str n => withValue (call.str n) j fun x => (.passed,j.write (.str x))
  | table => (.passed,j.write (.table call.table))
  | docstring => (.passed,j.write (.docstring call.docstring))
  | add n => withValue (call.int n) j fun x => (.passed,{ j with total := j.total + x })
  | check n => withValue (call.int n) j fun x =>
      if j.total = x then (.passed,j)
      else (failWith ("expected " ++ Numeral.integerText x ++ ", got "
        ++ Numeral.integerText j.total),j)
  | parse text =>
      withValue ((Numeral.readInteger text.toList).mapError Numeral.IntegerError.message) j
        fun x => (.passed,j.write (.number x))
  | fail messages => (.failed (.ofMessages messages),j)
  | panic payload => (.panicked payload,j)

end Action

abbrev Script (N : Type) := List (Action N)

namespace Script

def run (call : Call) (j : Journal N) : Script N → Outcome × Journal N
  | [] => (.passed,j)
  | action :: rest =>
      match action.run call j with
      | (.passed,j) => run call j rest
      | stopped => stopped

def stepHandler (script : Script N) : StepHandler (Journal N) := fun call j => script.run call j

-- A hook is called with nothing, so all its arguments are missing.
def hookHandler (script : Script N) : HookHandler (Journal N) :=
  fun j => script.run ⟨"",[],none,none⟩ j

end Script

end ScenarioSuite
