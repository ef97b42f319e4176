import ScenarioSuite.Error

namespace ScenarioSuite

namespace Link

inductive Behind : Link → List String → Prop
  | last : source? link = none → Behind link []
  | next : source? link = some origin → Behind origin texts → Behind link (origin.message :: texts)

theorem behind_unique {link : Link} {texts others : List String} (first : Behind link texts)
    (second : Behind link others) : texts = others := by
  induction first generalizing others with
  | last ends =>
      cases second with
      | last => rfl
      | next goes _ => cases ends.symm.trans goes
  | next goes _ ih =>
      cases second with
      | last ends => cases ends.symm.trans goes
      | next same rest =>
          cases goes.symm.trans same
          rw [ih rest]

theorem behind_sole (origin : Link) {link : Link} (goes : source? link = some origin)
    (ends : source? origin = none) : Behind link [origin.message] := .next goes (.last ends)

theorem behind_handler (c : Cause) : Behind (handler c) c.sources := by
  obtain ⟨message,sources⟩ := c
  induction sources generalizing message with
  | nil => exact .last rfl
  | cons inner sources ih => exact .next rfl (ih inner)

theorem behind_step (e : StepError) : Behind (step e) e.sources := by
  cases e with
  | undefined text => exact .last rfl
  | ambiguous e => exact behind_sole (ambiguous e) rfl rfl
  | failed text cause =>
      obtain ⟨message,sources⟩ := cause
      cases sources with
      | nil => exact .last rfl
      | cons inner sources => exact .next rfl (behind_handler ⟨inner,sources⟩)

theorem behind_hookConfig (e : HookConfigError) : Behind (hookConfig e) [e.source.message] :=
  behind_sole (tagFilter e.source) rfl rfl

theorem behind_hook (e : HookError) : Behind (hook e) e.sources := by
  obtain ⟨phase,index,name,location,cause⟩ := e
  cases cause with
  | error cause => exact .next rfl (behind_handler cause)
  | panic message => exact .last rfl

theorem behind_whole (e : Error) : Behind (whole e) e.chain := by
  cases e with
  | tagFilter e => exact behind_sole (tagFilter e) rfl rfl
  | table e => exact behind_sole (table e) rfl rfl
  | pattern e => exact behind_sole (pattern e) rfl rfl
  | step e => exact .next rfl (behind_step e)
  | hookConfig e => exact .next rfl (behind_hookConfig e)
  | hook e => exact .next rfl (behind_hook e)

theorem behind_exact (e : Error) (texts : List String) :
    Behind (whole e) texts ↔ texts = e.chain := by
  constructor
  · intro behind
    exact behind_unique behind (behind_whole e)
  · rintro rfl
    exact behind_whole e

theorem chain_head (e : Error) : e.chain.head? = some e.message := by cases e <;> rfl

theorem chain_other {e : Error} (failed : ∀ text cause, e ≠ .step (.failed text cause))
    (ambiguous : ∀ a, e ≠ .step (.ambiguous a)) (config : ∀ c, e ≠ .hookConfig c)
    (hook : ∀ h, e ≠ .hook h) : e.chain = [e.message] := by
  cases e with
  | tagFilter | table | pattern => rfl
  | step e =>
      cases e with
      | undefined => rfl
      | ambiguous a => exact absurd rfl (ambiguous a)
      | failed text cause => exact absurd rfl (failed text cause)
  | hookConfig c => exact absurd rfl (config c)
  | hook h => exact absurd rfl (hook h)

-- What is shown of an error is what its sources begin with. Those of a handler's error come
-- after that, from the outside in and each of them once: a failed step shows the handler's
-- error and has nothing else in front of it, a failed hook has its own text there.
theorem causes_exact :
    (∀ e, (∀ texts, Behind (whole e) texts ↔ texts = e.chain) ∧ e.chain.head? = some e.message) ∧
    (∀ text cause, (Error.step (.failed text cause)).message = cause.message ∧
      ∀ texts, Behind (whole (.step (.failed text cause))) texts ↔ texts = cause.chain) ∧
    (∀ phase index name location cause,
      let e := Error.hook ⟨phase,index,name,location,.error cause⟩
      e.message = "Hook failed: " ++ cause.message ∧
        ∀ texts, Behind (whole e) texts ↔ texts = e.message :: cause.chain) ∧
    (∀ phase index name location message texts,
      Behind (whole (.hook ⟨phase,index,name,location,.panic message⟩)) texts ↔
        texts = ["Hook failed: " ++ message]) ∧
    (∀ e texts, Behind (whole (.step (.ambiguous e))) texts ↔ texts = [e.message,e.message]) ∧
    (∀ e texts, Behind (whole (.hookConfig e)) texts ↔ texts = [e.message,e.source.message]) ∧
    ∀ e, (∀ text cause, e ≠ .step (.failed text cause)) → (∀ a, e ≠ .step (.ambiguous a)) →
      (∀ c, e ≠ .hookConfig c) → (∀ h, e ≠ .hook h) →
        ∀ texts, Behind (whole e) texts ↔ texts = [e.message] := by
  refine ⟨fun e => ⟨behind_exact e,chain_head e⟩,?_,?_,?_,?_,?_,?_⟩
  · exact fun text cause => ⟨rfl,behind_exact _⟩
  · exact fun phase index name location cause => ⟨rfl,behind_exact _⟩
  · exact fun phase index name location message => behind_exact _
  · exact fun e => behind_exact _
  · exact fun e => behind_exact _
  · intro e failed ambiguous config hook texts
    rw [behind_exact,chain_other failed ambiguous config hook]

def unreadable : Cause := ⟨"cannot eat",["not a number","invalid digit"]⟩

theorem causes_exact_unreadable :
    Behind (whole (.step (.failed "I eat x" unreadable)))
        ["cannot eat","not a number","invalid digit"] ∧
      Behind (whole (.hook ⟨.afterScenario,1,none,⟨"hooks.rs",7,1⟩,.error unreadable⟩))
        ["Hook failed: cannot eat","cannot eat","not a number","invalid digit"] ∧
      (∀ text cause, Error.step (.undefined "I fly") ≠ .step (.failed text cause)) ∧
      Behind (whole (.step (.undefined "I fly"))) ["No step definition matches `I fly`"] := by
  obtain ⟨_,step,hook,_,_,_,other⟩ := causes_exact
  refine ⟨((step _ _).2 _).mpr rfl,((hook _ _ _ _ _).2 _).mpr rfl,nofun,?_⟩
  exact (other (.step (.undefined "I fly")) nofun nofun nofun nofun _).mpr rfl

end Link

end ScenarioSuite
