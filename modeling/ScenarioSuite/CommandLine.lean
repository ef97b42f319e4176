import ScenarioSuite.Duration.Reader
import ScenarioSuite.Glue.Basic

namespace ScenarioSuite

structure RunOptions where
  tags : Option TagFilter := none
  strictSteps : Bool := false
  hookTimeout : Option Duration := none
  deriving DecidableEq, Repr

def RunOptions.policy (o : RunOptions) : MatchPolicy :=
  if o.strictSteps then .rejectAmbiguous else .firstMatch

-- The policy is always set, the timeout only if the options give one.
def RunOptions.apply {W : Type} (o : RunOptions) (glue : Glue W) : Glue W :=
  let glue := glue.setPolicy o.policy
  match o.hookTimeout with
  | some timeout => glue.setDefaultTimeout (some timeout)
  | none => glue

namespace CommandLine

inductive Fault
  | displayHelp
  | unknownArgument
  | invalidValue
  | argumentConflict
  | tooManyValues
  | valueValidation (detail : String)
  | aborted (message : String)
  deriving DecidableEq, Repr

def Fault.detail? : Fault → Option String
  | .valueValidation detail => some detail
  | _ => none

inductive Valued
  | tags
  | hookTimeout
  deriving DecidableEq, Repr

inductive Switch
  | strictSteps
  | help
  deriving DecidableEq, Repr

inductive Flag
  | valued (option : Valued)
  | switch (option : Switch)
  deriving DecidableEq, Repr

def longFlag? (name : String) : Option Flag :=
  if name = "tags" then some (.valued .tags)
  else if name = "hook-timeout" then some (.valued .hookTimeout)
  else if name = "strict-steps" then some (.switch .strictSteps)
  else if name = "help" then some (.switch .help)
  else none

def shortFlag? (letter : Char) : Option Flag :=
  if letter = 't' then some (.valued .tags)
  else if letter = 'h' then some (.switch .help)
  else none

-- The options set so far, and the last one that takes a value of its own: with the
-- value that followed it, or still waiting for one. It is looked at when the next
-- option comes up, or at the end.
structure Progress where
  options : RunOptions
  pending : Option (Valued × Option String)
  deriving DecidableEq, Repr

def Progress.start : Progress := ⟨{},none⟩

-- An option may be given once; this is found out before its value is read.
def store (options : RunOptions) (option : Valued) (value : String) : Except Fault RunOptions :=
  match option with
  | .tags =>
      if options.tags.isSome then .error .argumentConflict
      else match TagFilter.ofSource value with
        | .ok filter => .ok { options with tags := some filter }
        | .error e => .error (.valueValidation e.message)
  | .hookTimeout =>
      if options.hookTimeout.isSome then .error .argumentConflict
      else match Duration.read value with
        | .ok timeout => .ok { options with hookTimeout := some timeout }
        | .error fault =>
            .error (if fault.aborts then .aborted fault.message
              else .valueValidation fault.message)

def Progress.settle (p : Progress) : Except Fault RunOptions :=
  match p.pending with
  | none => .ok p.options
  | some (_,none) => .error .invalidValue
  | some (option,some value) => store p.options option value

def Progress.valued (p : Progress) (option : Valued) (attached : Option String) :
    Except Fault Progress := do
  let options ← p.settle
  match attached with
  | some value => return ⟨← store options option value,none⟩
  | none => return ⟨options,some (option,none)⟩

def Progress.switch (p : Progress) (option : Switch) : Except Fault Progress := do
  let options ← p.settle
  match option with
  | .help => throw .displayHelp
  | .strictSteps =>
      if options.strictSteps then throw .argumentConflict
      else return ⟨{ options with strictSteps := true },none⟩

def Progress.long (p : Progress) (text : List Char) : Except Fault Progress :=
  let (name,rest) := text.span (· != '=')
  let attached := rest.tail?.map String.ofList
  match longFlag? (String.ofList name),attached with
  | none,_ => .error .unknownArgument
  | some (.valued option),attached => p.valued option attached
  | some (.switch option),none => p.switch option
  | some (.switch _),some _ => .error .tooManyValues

def Progress.short (p : Progress) : List Char → Except Fault Progress
  | [] => .ok p
  | letter :: rest =>
      match shortFlag? letter with
      | none => .error .unknownArgument
      | some (.switch option) => do (← p.switch option).short rest
      | some (.valued option) =>
          match rest with
          | [] => p.valued option none
          | '=' :: value => p.valued option (some (String.ofList value))
          | value => p.valued option (some (String.ofList value))

def Progress.value (p : Progress) (text : String) : Except Fault Progress :=
  match p.pending with
  | some (option,none) => .ok { p with pending := some (option,some text) }
  | _ => .error .unknownArgument

def Progress.run (p : Progress) : List String → Except Fault RunOptions
  | [] => p.settle
  | arg :: rest =>
      match arg.toList with
      | ['-','-'] => if rest = [] then p.settle else .error .unknownArgument
      | '-' :: '-' :: text => do (← p.long text).run rest
      | '-' :: c :: text => do (← p.short (c :: text)).run rest
      | _ => do (← p.value arg).run rest

def parse (args : List String) : Except Fault RunOptions := Progress.start.run args.tail

end CommandLine

end ScenarioSuite
