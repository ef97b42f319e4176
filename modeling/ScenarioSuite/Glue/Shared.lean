import ScenarioSuite.Glue.Basic

namespace ScenarioSuite

variable {K W α : Type} [DecidableEq K]

-- The glue that a whole process shares, one for every kind of world. A kind that is
-- not listed has an empty one.
structure SharedGlue (K W : Type) where
  entries : List (K × Glue W)

namespace SharedGlue

def empty : SharedGlue K W := ⟨[]⟩

def get (s : SharedGlue K W) (kind : K) : Glue W :=
  ((s.entries.find? fun entry => decide (entry.1 = kind)).map Prod.snd).getD Glue.empty

def erase (s : SharedGlue K W) (kind : K) : SharedGlue K W :=
  ⟨s.entries.filter fun entry => decide (entry.1 ≠ kind)⟩

-- Changes the glue of one kind. What is done before `f` gives up stays done.
def update (s : SharedGlue K W) (kind : K) (f : Glue W → α × Glue W) : α × SharedGlue K W :=
  let (result,glue) := f (s.get kind)
  (result,⟨(kind,glue) :: (s.erase kind).entries⟩)

def take (s : SharedGlue K W) (kind : K) : Glue W × SharedGlue K W := (s.get kind,s.erase kind)

end SharedGlue

end ScenarioSuite
