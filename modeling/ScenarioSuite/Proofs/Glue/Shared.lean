import ScenarioSuite.Glue.Shared
import ScenarioSuite.Proofs.Glue.Replay

namespace ScenarioSuite

variable {K W α : Type} [DecidableEq K]

-- Someone who changes glue in place. Which call comes next may hang on the answers so far
-- and on the glue as it stands; a result can also tell that there was a panic.
inductive Routine (W α : Type)
  | done (result : α)
  | call (op : Operation W) (next : Except Error Unit → Glue W → Routine W α)

def Routine.run : Routine W α → Glue W → (List (Operation W) × α) × Glue W
  | .done result, glue => (([],result),glue)
  | .call op next, glue =>
      let (answer,left) := op.perform glue
      let ((ops,result),last) := (next answer left).run left
      ((op :: ops,result),last)

theorem Routine.run_replay (routine : Routine W α) (glue : Glue W) :
    (routine.run glue).2 = glue.replay (routine.run glue).1.1 := by
  induction routine generalizing glue with
  | done result => rfl
  | call op next ih => exact ih _ _ _

def Routine.ofCalls (result : α) : List (Operation W) → Routine W α
  | [] => .done result
  | op :: ops => .call op fun _ _ => ofCalls result ops

theorem Routine.run_ofCalls (result : α) (ops : List (Operation W)) (glue : Glue W) :
    (ofCalls result ops).run glue = ((ops,result),glue.replay ops) := by
  induction ops generalizing glue with
  | nil => rfl
  | cons op ops ih =>
      simp only [ofCalls,run,ih]
      rfl

inductive Access (W α : Type)
  | change (routine : Routine W α)
  | take

def Access.planned (result : α) : Option (List (Operation W)) → Access W α
  | some ops => .change (.ofCalls result ops)
  | none => .take

inductive Served (W α : Type)
  | changed (ops : List (Operation W)) (result : α)
  | taken (glue : Glue W)

def Served.ops : Served W α → List (Operation W)
  | .changed ops _ => ops
  | .taken _ => []

def Served.taken? : Served W α → Option (Glue W)
  | .changed .. => none
  | .taken glue => some glue

namespace SharedGlue

def perform (s : SharedGlue K W) (kind : K) : Access W α → Served W α × SharedGlue K W
  | .change routine =>
      let ((ops,result),next) := s.update kind routine.run
      (.changed ops result,next)
  | .take =>
      let (glue,next) := s.take kind
      (.taken glue,next)

def run (s : SharedGlue K W) : List (K × Access W α) → List (K × Served W α) × SharedGlue K W
  | [] => ([],s)
  | (kind,access) :: rest =>
      let (served,next) := s.perform kind access
      let (history,last) := next.run rest
      ((kind,served) :: history,last)

end SharedGlue

def ofKind {β : Type} (kind : K) (l : List (K × β)) : List β :=
  (l.filter fun entry => decide (entry.1 = kind)).map Prod.snd

theorem ofKind_same {β : Type} (kind : K) (b : β) (l : List (K × β)) :
    ofKind kind ((kind,b) :: l) = b :: ofKind kind l := by
  simp [ofKind]

theorem ofKind_other {β : Type} {kind other : K} (different : other ≠ kind) (b : β)
    (l : List (K × β)) : ofKind kind ((other,b) :: l) = ofKind kind l := by
  simp [ofKind,different]

theorem ofKind_append {β : Type} (kind : K) (first rest : List (K × β)) :
    ofKind kind (first ++ rest) = ofKind kind first ++ ofKind kind rest := by
  simp [ofKind]

theorem ofKind_none {β : Type} {kind : K} {l : List (K × β)} (others : ∀ entry ∈ l, entry.1 ≠ kind) :
    ofKind kind l = [] := by
  rw [ofKind,List.map_eq_nil_iff,List.filter_eq_nil_iff]
  intro entry member
  simp [others entry member]

theorem ofKind_filter {β : Type} (kind : K) (l : List (K × β)) :
    ofKind kind (l.filter fun entry => decide (entry.1 = kind)) = ofKind kind l := by
  simp [ofKind]

theorem ofKind_map {β γ : Type} (f : β → γ) (kind : K) (l : List (K × β)) :
    ofKind kind (l.map fun entry => (entry.1,f entry.2)) = (ofKind kind l).map f := by
  simp only [ofKind,List.filter_map,List.map_map]
  rfl

namespace SharedGlue

theorem get_erase_same (s : SharedGlue K W) (kind : K) : (s.erase kind).get kind = Glue.empty := by
  have nothing : (s.erase kind).entries.find? (fun entry => decide (entry.1 = kind)) = none := by
    rw [List.find?_eq_none]
    intro entry member
    simpa using (List.mem_filter.mp member).2
  rw [get,nothing]
  rfl

theorem get_erase_other (s : SharedGlue K W) {kind other : K} (different : other ≠ kind) :
    (s.erase other).get kind = s.get kind := by
  have same : ∀ entry : K × Glue W,
      decide (decide (entry.1 ≠ other) = true ∧ decide (entry.1 = kind) = true) =
        decide (entry.1 = kind) := by
    intro entry
    by_cases own : entry.1 = kind <;> simp [own,different.symm]
  simp only [get,erase,List.find?_filter,same]

theorem get_update_same (s : SharedGlue K W) (kind : K) (f : Glue W → α × Glue W) :
    (s.update kind f).2.get kind = (f (s.get kind)).2 := by
  simp [update,get]

theorem get_update_other (s : SharedGlue K W) {kind other : K} (different : other ≠ kind)
    (f : Glue W → α × Glue W) : (s.update other f).2.get kind = s.get kind := by
  rw [← get_erase_other s different]
  simp [update,get,different]

end SharedGlue

def Access.serve : Access W α → Glue W → Served W α × Glue W
  | .change routine, glue =>
      let ((ops,result),left) := routine.run glue
      (.changed ops result,left)
  | .take, glue => (.taken glue,.empty)

def Glue.serve (glue : Glue W) : List (Access W α) → List (Served W α) × Glue W
  | [] => ([],glue)
  | access :: rest =>
      let (served,left) := access.serve glue
      let (history,last) := left.serve rest
      (served :: history,last)

namespace SharedGlue

theorem perform_same (s : SharedGlue K W) (kind : K) (access : Access W α) :
    (s.perform kind access).1 = (access.serve (s.get kind)).1 ∧
      (s.perform kind access).2.get kind = (access.serve (s.get kind)).2 := by
  cases access with
  | change routine => exact ⟨rfl,get_update_same s kind routine.run⟩
  | take => exact ⟨rfl,get_erase_same s kind⟩

theorem perform_other (s : SharedGlue K W) {kind other : K} (different : other ≠ kind)
    (access : Access W α) : (s.perform other access).2.get kind = s.get kind := by
  cases access with
  | change routine => exact get_update_other s different routine.run
  | take => exact get_erase_other s different

theorem run_kind (s : SharedGlue K W) (accesses : List (K × Access W α)) (kind : K) :
    ofKind kind (s.run accesses).1 = ((s.get kind).serve (ofKind kind accesses)).1 ∧
      (s.run accesses).2.get kind = ((s.get kind).serve (ofKind kind accesses)).2 := by
  induction accesses generalizing s with
  | nil => exact ⟨rfl,rfl⟩
  | cons head rest ih =>
      obtain ⟨own,access⟩ := head
      obtain ⟨history,last⟩ := ih (s.perform own access).2
      by_cases same : own = kind
      · subst same
        obtain ⟨served,left⟩ := s.perform_same own access
        rw [left] at history last
        simp only [run,ofKind_same,Glue.serve,served,history,last,and_self]
      · rw [s.perform_other same] at history last
        simp only [run,ofKind_other same,history,last,and_self]

end SharedGlue

-- Something that glue keeps of what is registered: nothing at first, and whatever later
-- calls make stands behind it in their order.
structure Ledger (W β : Type) where
  kept : Glue W → List β
  made : Operation W → Option β
  fresh : kept Glue.empty = []
  grows : ∀ glue ops, kept (glue.replay ops) = kept glue ++ ops.filterMap made

namespace Ledger

def definitions : Ledger W (Definition W) where
  kept := fun glue => glue.steps.definitions
  made := Operation.definition?
  fresh := rfl
  grows := fun glue ops => by rw [Glue.replay_extends]

def hooks : Ledger W (Hook W) where
  kept := fun glue => glue.hooks.hooks
  made := Operation.hook?
  fresh := rfl
  grows := fun glue ops => by rw [Glue.replay_extends]

theorem serve_access {β : Type} (ledger : Ledger W β) (access : Access W α) (glue : Glue W) :
    ledger.kept glue ++ (access.serve glue).1.ops.filterMap ledger.made =
      (access.serve glue).1.taken?.toList.flatMap ledger.kept ++
        ledger.kept (access.serve glue).2 := by
  cases access with
  | change routine =>
      change _ = ledger.kept (routine.run glue).2
      rw [routine.run_replay,ledger.grows]
      rfl
  | take => simp [Access.serve,Served.ops,Served.taken?,ledger.fresh]

theorem serve_all {β : Type} (ledger : Ledger W β) (accesses : List (Access W α)) (glue : Glue W) :
    ledger.kept glue ++ ((glue.serve accesses).1.flatMap Served.ops).filterMap ledger.made =
      ((glue.serve accesses).1.filterMap Served.taken?).flatMap ledger.kept ++
        ledger.kept (glue.serve accesses).2 := by
  induction accesses generalizing glue with
  | nil => simp [Glue.serve]
  | cons access rest ih =>
      have first := ledger.serve_access access glue
      have others := ih (access.serve glue).2
      have split : ((glue.serve (access :: rest)).1.filterMap Served.taken?) =
          (access.serve glue).1.taken?.toList ++
            (((access.serve glue).2.serve rest).1.filterMap Served.taken?) := by
        simp only [Glue.serve,List.filterMap_cons]
        cases (access.serve glue).1.taken? <;> rfl
      rw [split,List.flatMap_append,List.append_assoc]
      simp only [Glue.serve,List.flatMap_cons,List.filterMap_append]
      rw [← others,← List.append_assoc,← List.append_assoc,first]

end Ledger

theorem Glue.serve_take (glue : Glue W) (accesses : List (Access W α)) :
    (glue.serve (accesses ++ [.take])).2 = .empty := by
  induction accesses generalizing glue with
  | nil => rfl
  | cons access rest ih => exact ih _

theorem Access.serve_planned (result : α) (calls : Option (List (Operation W))) (glue : Glue W) :
    ((planned result calls).serve glue).1.ops = calls.getD [] := by
  cases calls with
  | none => rfl
  | some ops =>
      simp only [planned,serve,Routine.run_ofCalls]
      rfl

theorem Glue.serve_planned (glue : Glue W) (result : α) (plan : List (Option (List (Operation W)))) :
    (glue.serve (plan.map (Access.planned result))).1.flatMap Served.ops =
      plan.flatMap fun calls => calls.getD [] := by
  induction plan generalizing glue with
  | nil => rfl
  | cons calls plan ih =>
      simp only [List.map_cons,List.flatMap_cons,Glue.serve,Access.serve_planned,ih]

namespace SharedGlue

-- Nothing that is registered for a kind is lost or doubled: what has been handed out and
-- what is still there is what was registered, in order. Glue that was just handed out is
-- empty, and what is done with other kinds does not show. Calls that were planned for the
-- kind are the calls that were made.
theorem shared_custody (accesses : List (K × Access W α)) (kind : K) :
    let done := (empty : SharedGlue K W).run accesses
    let history := ofKind kind done.1
    let ops := history.flatMap Served.ops
    let all := history.filterMap Served.taken? ++ [done.2.get kind]
    all.flatMap (fun glue => glue.steps.definitions) = ops.filterMap Operation.definition? ∧
    all.flatMap (fun glue => glue.hooks.hooks) = ops.filterMap Operation.hook? ∧
    (∀ between : List (K × Access W α), (∀ access ∈ between, access.1 ≠ kind) →
      (((empty : SharedGlue K W).run (accesses ++ (kind,.take) :: between)).2.take kind).1 =
        ⟨⟨[],.firstMatch⟩,⟨[],none⟩⟩) ∧
    (let alone := (empty : SharedGlue K W).run (accesses.filter fun access => access.1 = kind)
    ofKind kind alone.1 = history ∧ alone.2.get kind = done.2.get kind) ∧
    ∀ result plan, accesses = plan.map (fun entry => (entry.1,Access.planned result entry.2)) →
      ops = (ofKind kind plan).flatMap fun calls => calls.getD [] := by
  intro done history ops all
  have first : (empty : SharedGlue K W).get kind = .empty := rfl
  have served (calls : List (K × Access W α)) := (empty : SharedGlue K W).run_kind calls kind
  rw [first] at served
  obtain ⟨events,last⟩ := served accesses
  -- Once the kind is taken alone, one balance serves for definitions and for hooks.
  have kept {β : Type} (ledger : Ledger W β) :
      all.flatMap ledger.kept = ops.filterMap ledger.made := by
    have balance := ledger.serve_all (ofKind kind accesses) Glue.empty
    rw [ledger.fresh,List.nil_append,← events,← last] at balance
    rw [balance,List.flatMap_append,List.flatMap_singleton]
  refine ⟨kept .definitions,kept .hooks,?_,?_,?_⟩
  · intro between others
    have nothing : ofKind kind between = [] := ofKind_none others
    have taken : ofKind kind (accesses ++ (kind,.take) :: between) = ofKind kind accesses ++ [.take] := by
      rw [ofKind_append,ofKind_same,nothing]
    rw [take,(served _).2,taken,Glue.serve_take]
    rfl
  · obtain ⟨own,left⟩ := served (accesses.filter fun access => access.1 = kind)
    rw [ofKind_filter] at own left
    exact ⟨own.trans events.symm,left.trans last.symm⟩
  · rintro result plan rfl
    have served : history = _ := events
    rw [ofKind_map] at served
    change history.flatMap Served.ops = _
    rw [served,Glue.serve_planned]

def startHook : Operation Nat :=
  .plainHook ⟨"hooks.rs",3,1⟩ .beforeSuite fun world => (.passed,world + 1)

def misspelt : Operation Nat :=
  .hook ⟨"hooks.rs",9,1⟩ .beforeScenario ⟨some "@a and",none,none⟩ fun world => (.passed,world)

def hookOnce : Routine Nat Unit :=
  .call (.setPolicy .rejectAmbiguous) fun _ glue =>
    if glue.hooks.hooks.isEmpty then .call startHook fun _ _ => .done () else .done ()

def sharing : List (Bool × Option (List (Operation Nat))) :=
  [(true,some [startHook,misspelt,startHook]),(false,some [startHook]),(true,none),
    (true,some [misspelt]),(true,some [startHook])]

-- Two hooks are handed out and one is left, with a failed call among those of either; the
-- hook of the other kind is not among them.
theorem shared_custody_misspelt :
    let accesses : List (Bool × Access Nat Unit) :=
      sharing.map fun entry => (entry.1,Access.planned () entry.2)
    let done := (empty : SharedGlue Bool Nat).run accesses
    let all := (ofKind true done.1).filterMap Served.taken? ++ [done.2.get true]
    let between : List (Bool × Access Nat Unit) := [(false,.change hookOnce),(false,.take)]
    (misspelt.perform Glue.empty).1.isOk = false ∧
      all.map (fun glue => glue.hooks.hooks.length) = [2,1] ∧
      all.flatMap (fun glue => glue.hooks.hooks) =
        [startHook,misspelt,startHook,misspelt,startHook].filterMap Operation.hook? ∧
      (∀ access ∈ between, access.1 ≠ true) ∧
      (((empty : SharedGlue Bool Nat).run (accesses ++ (true,.take) :: between)).2.take true).1 =
        ⟨⟨[],.firstMatch⟩,⟨[],none⟩⟩ := by
  intro accesses done all between
  obtain ⟨_,hooks,emptied,_,planned⟩ := shared_custody accesses true
  have others : ∀ access ∈ between, access.1 ≠ true := by simp [between]
  refine ⟨by decide,by decide,?_,others,emptied between others⟩
  rw [hooks,planned () sharing rfl]
  rfl

end SharedGlue

end ScenarioSuite
