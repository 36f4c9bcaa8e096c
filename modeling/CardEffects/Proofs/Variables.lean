import CardEffects.Proofs.TwoRuns

/-!
# The variables of a script

A script reads the variables that it mentions and sets those that it assigns or steps, and it has no
part in any other. The operations that are not about variables are blind to them: they do the same
whatever the variables are.
-/

namespace CardEffects

namespace Expr

def ownName? : Expr → Option String
  | var name | assign name _ | step _ name _ => some name.lexeme
  | _ => none

def ownTarget? : Expr → Option String
  | assign name _ | step _ name _ => some name.lexeme
  | _ => none

def names (e : Expr) : List String := e.nodes.filterMap ownName?

def targets (e : Expr) : List String := e.nodes.filterMap ownTarget?

variable {e node : Expr} {name : String}

theorem mem_names (mem : node ∈ e.nodes) (own : node.ownName? = some name) : name ∈ e.names :=
  List.mem_filterMap.mpr ⟨node, mem, own⟩

theorem mem_targets (mem : node ∈ e.nodes) (own : node.ownTarget? = some name) : name ∈ e.targets :=
  List.mem_filterMap.mpr ⟨node, mem, own⟩

theorem targets_subset_names (e : Expr) : e.targets ⊆ e.names := by
  intro name target
  obtain ⟨node, mem, own⟩ := List.mem_filterMap.mp target
  refine mem_names mem ?_
  cases node with
  | assign | step => exact own
  | _ => cases own

end Expr

namespace Run

section

variable {χ ε α β : Type}

/-- With other variables the run does the same, and it leaves them alone. -/
def Blind (x : Run χ ε α) : Prop :=
  ∀ env s, x { s with env } = ⟨(x s).verdict, ⟨env, (x s).session.context⟩, (x s).events⟩

theorem Blind.env_eq {x : Run χ ε α} (hx : x.Blind) (s : Session χ) : (x s).session.env = s.env :=
  congrArg (·.session.env) (hx s.env s)

theorem blind_pure (a : α) : (pure a : Run χ ε α).Blind := fun _ _ => rfl

theorem blind_fail (e : ε) : (fail e : Run χ ε α).Blind := fun _ _ => rfl

theorem blind_rejected (event : Event) (e : ε) :
    (emit event >>= fun _ => fail e : Run χ ε α).Blind := fun _ _ => rfl

theorem blind_getContext {f : χ → Run χ ε α} (hf : ∀ context, (f context).Blind) :
    (getContext >>= f).Blind := fun env s => hf s.context env s

theorem blind_setContext {context : χ} {f : Unit → Run χ ε α} (hf : (f ()).Blind) :
    (setContext context >>= f).Blind := fun env s => hf env { s with context }

theorem Blind.bind {x : Run χ ε α} {f : α → Run χ ε β} (hx : x.Blind) (hf : ∀ a, (f a).Blind) :
    (x >>= f).Blind := by
  intro env s
  have first := hx env s
  rcases run : x s with ⟨v, t, events⟩
  rw [run] at first
  cases v with
  | done a =>
    have second := hf a env t
    rw [bind_of_done run, bind_of_done first, second]
  | failed e => rw [bind_of_failed run, bind_of_failed first]
  | refused r => rw [bind_of_refused run, bind_of_refused first]

theorem blind_located (pos : SourcePos) (r : Except Cause α) : (located (χ := χ) pos r).Blind := by
  cases r with
  | ok a => exact blind_pure a
  | error cause => exact blind_fail _

theorem blind_literal (token : Option Token) (read : String → Except Cause Value) :
    (literal (χ := χ) token read).Blind := by
  cases token with
  | none => exact blind_pure _
  | some token => exact blind_located _ _

theorem blind_listOf (r : Except Refusal ZoneHandle) :
    (ofContext r >>= fun zone => pure (.cardList zone) : Run χ ε Value).Blind := by
  cases r with
  | ok zone => exact blind_pure _
  | error r => exact fun _ _ => rfl

theorem blind_cardArgument (name : Token) (v : Value) : (cardArgument (χ := χ) name v).Blind := by
  cases v with
  | card c => exact blind_pure c
  | _ => exact blind_rejected _ _

end

variable {χ : Type} [ScriptContext χ]

theorem blind_triggerPlayer : (triggerPlayer (χ := χ)).Blind :=
  blind_getContext fun _ => blind_pure _

theorem blind_activeZone (kind : ZoneKind) : (activeZone (χ := χ) kind).Blind :=
  blind_getContext fun _ => blind_listOf _

theorem blind_numberedZone (kind : ZoneKind) (access : Token) (player : Value) :
    (numberedZone (χ := χ) kind access player).Blind := by
  cases player with
  | number x =>
    refine blind_getContext fun context => ?_
    split
    · exact blind_listOf _
    · exact blind_fail _
  | _ => exact blind_rejected _ _

theorem blind_applyBinary (op : BinaryOp) (operator : Token) (a b : Value) :
    (applyBinary (χ := χ) op operator a b).Blind := blind_getContext fun _ => blind_located _ _

theorem blind_cardsOf (zone : ZoneHandle) (pos : SourcePos) :
    (cardsOf (χ := χ) zone pos).Blind := by
  refine blind_getContext fun context => ?_
  split
  · exact blind_pure _
  · exact blind_fail _

theorem blind_editOf (zone : ZoneHandle) (pos : SourcePos) : (editOf (χ := χ) zone pos).Blind := by
  refine blind_getContext fun context => ?_
  split
  · exact blind_pure _
  · exact blind_fail _

theorem blind_receiverOf (name : Token) (receiver : Value) :
    (receiverOf (χ := χ) name receiver).Blind := by
  cases receiver with
  | cardList zone => exact (blind_cardsOf zone name.pos).bind fun _ => blind_pure zone
  | _ => exact blind_rejected _ _

theorem blind_applyCard (m : CardMethod) (zone : ZoneHandle) (c : CardId) (pos : SourcePos) :
    (applyCard (χ := χ) m zone c pos).Blind := (blind_editOf zone pos).bind fun _ _ _ => rfl

theorem blind_applyPile (m : PileMethod) (zone : ZoneHandle) (pos : SourcePos) :
    (applyPile (χ := χ) m zone pos).Blind := by
  cases m with
  | pop => exact (blind_editOf zone pos).bind fun _ _ _ => rfl
  | shuffle =>
    refine (blind_cardsOf zone pos).bind fun cards => blind_getContext fun context => ?_
    exact blind_setContext ((blind_editOf zone pos).bind fun _ _ _ => rfl)

theorem operatesAlike_self {S : Session χ → Session χ → Prop} {node : Expr}
    (blind : node.ownName? = none)
    (reads : ∀ {α : Type} {x : Run χ RuntimeError α}, x.ReadOnly → x.Blind → Alike S Eq Eq x x)
    (card : ∀ m zone c pos, Alike S Eq Eq (applyCard m zone c pos) (applyCard m zone c pos))
    (pile : ∀ m zone pos, Alike S Eq Eq (applyPile m zone pos) (applyPile m zone pos)) :
    OperatesAlike S Eq Eq Eq node := by
  have receives (name : Token) (v w : Value) (same : v = w) :
      Alike S Eq Eq (receiverOf name v) (receiverOf name w) := by
    cases same
    exact reads (readOnly_receiverOf name v) (blind_receiverOf name v)
  cases node with
  | var | assign | step => cases blind
  | number token => exact reads (readOnly_literal _ _) (blind_literal _ _)
  | text token => exact reads (readOnly_literal _ _) (blind_literal _ _)
  | boolean token => exact reads (readOnly_literal _ _) (blind_literal _ _)
  | group inner => trivial
  | trigger token => exact reads readOnly_triggerPlayer blind_triggerPlayer
  | zone kind access => exact reads (readOnly_activeZone kind) (blind_activeZone kind)
  | unary op operator operand =>
    rintro v _ rfl
    exact reads (readOnly_located _ _) (blind_located _ _)
  | binary op operator left right =>
    rintro v _ w _ rfl rfl
    exact reads (readOnly_applyBinary op operator v w) (blind_applyBinary op operator v w)
  | zoneOf kind player access =>
    rintro v _ rfl
    exact reads (readOnly_numberedZone kind access v) (blind_numberedZone kind access v)
  | call receiver method name =>
    refine ⟨receives name, ?_⟩
    rintro zone _ rfl
    cases method with
    | pile m => exact pile m zone name.pos
    | card m => exact reads (readOnly_noOverload name 0) (blind_fail _)
  | callWith receiver method name arg =>
    cases method with
    | pile m => exact receives name
    | card m =>
      refine ⟨receives name, ?_⟩
      rintro zone _ v _ rfl rfl
      have given := reads (readOnly_cardArgument name v) (blind_cardArgument name v)
      exact given.bind fun c d same => same ▸ card m zone c name.pos

end Run

/-- Sessions on the way from the variables `env` and `env'`: the names are bound alike, what is no
target is bound as it was, and `K` relates the contexts. -/
structure Beside {χ χ' : Type} (K : χ → χ' → Prop) (names targets : List String)
    (env env' : Environment) (s : Session χ) (t : Session χ') : Prop where
  context : K s.context t.context
  common : ∀ name ∈ names, s.env.lookup? name = t.env.lookup? name
  left : ∀ name ∉ targets, s.env.lookup? name = env.lookup? name
  right : ∀ name ∉ targets, t.env.lookup? name = env'.lookup? name

section

variable {χ : Type} {K : χ → χ → Prop} {names targets : List String} {env env' : Environment}

theorem Beside.assign {s t : Session χ} (h : Beside K names targets env env' s t) {name : String}
    (target : name ∈ targets) (v : Value) :
    Beside K names targets env env' { s with env := s.env.assign name v }
      { t with env := t.env.assign name v } := by
  have other {x : String} (no : x ∉ targets) : name ≠ x := fun same => no (same ▸ target)
  refine ⟨h.context, fun x mem => ?_, fun x no => ?_, fun x no => ?_⟩
  · simp only [Environment.lookup?_assign, h.common x mem]
  · simp only [Environment.lookup?_assign, other no, if_false, h.left x no]
  · simp only [Environment.lookup?_assign, other no, if_false, h.right x no]

namespace Run

theorem beside_variableOf {name : Token} (mem : name.lexeme ∈ names) :
    Alike (Beside K names targets env env') Eq Eq (variableOf name) (variableOf name) := by
  intro s t h
  simp only [variableOf, getEnv_bind, h.common name.lexeme mem]
  cases t.env.lookup? name.lexeme with
  | some v => exact alike_pure rfl s t h
  | none => exact alike_fail _ s t h

theorem beside_assignTo {name : Token} (target : name.lexeme ∈ targets) (v : Value) :
    Alike (Beside K names targets env env') Eq Eq (assignTo name v) (assignTo name v) := by
  intro s t h
  by_cases null : v.isNull
  · simp only [assignTo, null]
    exact ⟨rfl, h, .nil⟩
  · simp only [assignTo, null]
    exact ⟨rfl, h.assign target v, .nil⟩

theorem beside_stepOn (op : StepOp) {name : Token} (operator : Token) (mem : name.lexeme ∈ names)
    (target : name.lexeme ∈ targets) :
    Alike (Beside K names targets env env') Eq Eq (stepOn op name operator)
      (stepOn op name operator) := by
  refine (beside_variableOf mem).bind fun v w same => ?_
  cases same
  cases v with
  | number old => exact fun s t h => ⟨rfl, h.assign target _, .nil⟩
  | _ => exact alike_fail _

theorem Blind.alike {ε α : Type} {x : Run χ ε α} (hx : x.Blind) :
    Alike (Beside Eq names targets env env') Eq Eq x x := by
  intro s t h
  have there : x t = ⟨(x s).verdict, ⟨t.env, (x s).session.context⟩, (x s).events⟩ := by
    rw [← hx t.env s, h.context]
  rw [there]
  refine ⟨Verdict.matches_refl _, ⟨rfl, ?_, ?_, h.right⟩, List.forall₂_refl _⟩
  · rw [hx.env_eq]
    exact h.common
  · rw [hx.env_eq]
    exact h.left

variable [ScriptContext χ]

theorem beside_operatesAlike {e node : Expr} (mem : node ∈ e.nodes)
    (other : node.ownName? = none →
      OperatesAlike (Beside K e.names e.targets env env') Eq Eq Eq node) :
    OperatesAlike (Beside K e.names e.targets env env') Eq Eq Eq node := by
  cases node with
  | var name => exact beside_variableOf (Expr.mem_names mem rfl)
  | assign name value =>
    rintro v _ rfl
    exact beside_assignTo (Expr.mem_targets mem rfl) v
  | step op name operator =>
    exact beside_stepOn op operator (Expr.mem_names mem rfl) (Expr.mem_targets mem rfl)
  | _ => exact other rfl

theorem blind_operatesAlike {node : Expr} (blind : node.ownName? = none) :
    OperatesAlike (Beside (χ := χ) Eq names targets env env') Eq Eq Eq node :=
  operatesAlike_self blind (fun _ hx => hx.alike)
    (fun m zone c pos => (blind_applyCard m zone c pos).alike)
    fun m zone pos => (blind_applyPile m zone pos).alike

theorem run_beside (config : EvalConfig) (e : Expr) :
    Alike (Beside (χ := χ) Eq e.names e.targets env env') Eq Eq (config.run e) (config.run e) := by
  rw [EvalConfig.run_eq]
  exact evaluate_alike (Z := Eq) (fun node mem => beside_operatesAlike mem blind_operatesAlike) 0

theorem lookup?_run (config : EvalConfig) (e : Expr) (s : Session χ) {name : String}
    (no : name ∉ e.targets) : (config.run e s).session.env.lookup? name = s.env.lookup? name :=
  (run_beside config e s s ⟨rfl, fun _ _ => rfl, fun _ _ => rfl, fun _ _ => rfl⟩).session.left name
    no

end Run

/-- A script sees and touches only the variables that it mentions. Environments which bind these
alike give it the same course and are still alike there afterwards, and in each of them all
variables but those that it assigns or steps are as they were, however the run ends. -/
theorem scripts_see_only_their_variables [ScriptContext χ] (config : EvalConfig) (e : Expr)
    (context : χ) (agree : ∀ name ∈ e.names, env.lookup? name = env'.lookup? name) :
    let o := config.run e ⟨env, context⟩
    let o' := config.run e ⟨env', context⟩
    o.verdict = o'.verdict ∧ o.events = o'.events ∧ o.session.context = o'.session.context ∧
      (∀ name ∈ e.names, o.session.env.lookup? name = o'.session.env.lookup? name) ∧
      ∀ name ∉ e.targets, o.session.env.lookup? name = env.lookup? name ∧
        o'.session.env.lookup? name = env'.lookup? name := by
  intro o o'
  have start : Beside Eq e.names e.targets env env' ⟨env, context⟩ ⟨env', context⟩ :=
    ⟨rfl, agree, fun _ _ => rfl, fun _ _ => rfl⟩
  obtain ⟨verdict, session, events⟩ := Run.run_beside config e _ _ start
  refine ⟨verdict.eq fun _ _ => id, List.forall₂_eq_eq_eq ▸ events, session.context,
    session.common, ?_⟩
  exact fun name no => ⟨session.left name no, session.right name no⟩

theorem scripts_see_only_their_variables_undefined :
    let env := Environment.empty.assign "x" (.text "Wolf")
    let env' := env.assign "other" (.boolean true)
    let e := Expr.ofBinary .concat (.group (.ofAssign "y" (.ofVar "x"))) (.ofVar "z")
    let m : MatchState := ⟨1, ⟨0⟩, MatchState.layout 1, ∅, .ofSeed 0, ⟨1⟩⟩
    let o := EvalConfig.default.run e ⟨env, m⟩
    let o' := EvalConfig.default.run e ⟨env', m⟩
    e.names = ["y", "x", "z"] ∧ e.targets = ["y"] ∧
      (∀ name ∈ e.names, env.lookup? name = env'.lookup? name) ∧
      o.verdict = .failed ⟨.undefined "z", .zero⟩ ∧ o'.verdict = .failed ⟨.undefined "z", .zero⟩ ∧
      o'.session.env.lookup? "y" = some (.text "Wolf") ∧
      o'.session.env.lookup? "other" = some (.boolean true) ∧
      o.session.env.lookup? "other" = none := by
  intro env env' e m o o'
  have agree : ∀ name ∈ e.names, env.lookup? name = env'.lookup? name := by
    intro name mem
    have other : "other" ≠ name := by
      rintro rfl
      exact absurd mem (by decide)
    simp only [env', Environment.lookup?_assign, other, if_false]
  obtain ⟨verdict, -, -, common, kept⟩ := scripts_see_only_their_variables .default e m agree
  have undefined : o.verdict = .failed ⟨.undefined "z", .zero⟩ := rfl
  have set : o.session.env.lookup? "y" = some (.text "Wolf") := rfl
  obtain ⟨left, right⟩ := kept "other" (by decide)
  exact ⟨rfl, rfl, agree, undefined, verdict ▸ undefined, (common "y" (by decide)).symm.trans set,
    right, left⟩

end

end CardEffects
