import CardEffects.Proofs.Causes

/-!
# The node to blame

A run that fails does so at one node. All operands that the run entered below this node are done,
and the node fails for a reason of its own, which the error tells together with a token of that
node. The nodes above it hand the error on as it is.
-/

namespace CardEffects

structure Entry (χ : Type) where
  level : Nat
  node : Expr
  session : Session χ

def Expr.children : Expr → List Expr
  | number _ | text _ | boolean _ | var _ | step _ _ _ | trigger _ | zone _ _ => []
  | group inner => [inner]
  | unary _ _ operand => [operand]
  | binary _ _ left right => [left, right]
  | assign _ value => [value]
  | zoneOf _ player _ => [player]
  | call receiver _ _ => [receiver]
  | callWith receiver _ _ arg => [receiver, arg]

def Expr.at? (e : Expr) : List Nat → Option Expr
  | [] => some e
  | i :: path => e.children[i]?.bind fun child => child.at? path

theorem Expr.sizeOf_child {e child : Expr} (h : child ∈ e.children) : sizeOf child < sizeOf e := by
  cases e <;> simp [children] at h <;>
    grind [group.sizeOf_spec, unary.sizeOf_spec, binary.sizeOf_spec, assign.sizeOf_spec,
      zoneOf.sizeOf_spec, call.sizeOf_spec, callWith.sizeOf_spec]

def Expr.callOf (receiver : Expr) (method : ListMethod) (name : Token) : Option Expr → Expr
  | none => call receiver method name
  | some arg => callWith receiver method name arg

def admits (limit : Option Nat) (level : Nat) : Bool := limit.all (level < ·)

def Outcome.next {χ ε α β : Type} (o : Outcome χ ε α) (f : α → Session χ → List β) : List β :=
  match o with
  | ⟨.done a, s, _⟩ => f a s
  | _ => []

theorem Outcome.next_of_forall {χ ε α β : Type} {p : List β → Prop} (nil : p [])
    {f : α → Session χ → List β} (h : ∀ a s, p (f a s)) (o : Outcome χ ε α) : p (o.next f) := by
  rcases o with ⟨a | _ | _, s, _⟩
  · exact h a s
  · exact nil
  · exact nil

open Run

section

variable {χ : Type}

theorem checkLevel_of_admitted {limit : Option Nat} {level : Nat}
    (admitted : admits limit level = true) (pos : SourcePos) :
    checkLevel (χ := χ) limit level pos = pure () := by
  cases limit with
  | none => rfl
  | some m =>
    have above : ¬ m ≤ level := by simpa [admits] using admitted
    simp only [checkLevel, above, if_false]

theorem checkLevel_of_deep {m level : Nat} (deep : m ≤ level) (pos : SourcePos) :
    checkLevel (χ := χ) (some m) level pos = fail ⟨.tooDeep m, pos⟩ := by
  simp only [checkLevel, deep, if_true]

end

variable {χ : Type} [ScriptContext χ]

namespace Entry

def outcome (limit : Option Nat) (v : Entry χ) : Outcome χ RuntimeError Value :=
  evaluate limit v.level v.node v.session

def Done (limit : Option Nat) (v : Entry χ) : Prop := ∃ a, (v.outcome limit).verdict = .done a

/-- The operands of a node that the run enters, in order and each with the session it finds. -/
def operands (limit : Option Nat) (v : Entry χ) : List (Entry χ) :=
  let enter (e : Expr) (s : Session χ) : List (Entry χ) := [⟨v.level + 1, e, s⟩]
  if admits limit v.level then
    match v.node with
    | .number _ | .text _ | .boolean _ | .var _ | .step _ _ _ | .trigger _ | .zone _ _ => []
    | .group inner => enter inner v.session
    | .unary _ _ operand => enter operand v.session
    | .binary _ _ left right =>
      enter left v.session ++ (evaluate limit (v.level + 1) left v.session).next fun _ =>
        enter right
    | .assign _ value => enter value v.session
    | .zoneOf _ player _ => enter player v.session
    | .call receiver _ _ => enter receiver v.session
    | .callWith receiver (.card _) name arg =>
      enter receiver v.session ++ (evaluate limit (v.level + 1) receiver v.session).next fun a s =>
        (receiverOf name a s).next fun _ => enter arg
    | .callWith receiver (.pile _) _ _ => enter receiver v.session
  else []

def at? (limit : Option Nat) (v : Entry χ) : List Nat → Option (Entry χ)
  | [] => some v
  | i :: path => (v.operands limit)[i]?.bind fun w => w.at? limit path

/-- The node fails although all operands entered are done. -/
def AtFault (limit : Option Nat) (v : Entry χ) : Prop :=
  (∀ w ∈ v.operands limit, w.Done limit) ∧ ∃ err, (v.outcome limit).verdict = .failed err

end Entry

/-- Why a node fails behind its operands, with the kind of the error, its cause and its place. -/
inductive Blames (limit : Option Nat) : Entry χ → ErrorKind → RuntimeError → Prop
  | tooDeep {v : Entry χ} {m : Nat} : limit = some m → m ≤ v.level →
      Blames limit v .depthExceeded ⟨.tooDeep m, v.node.pos⟩
  | number {level : Nat} {token : Token} {s : Session χ} :
      Number.read? (Text.trimmed token.lexeme.toList) = none →
      Blames limit ⟨level, .number (some token), s⟩ .invalidLiteral ⟨.badNumber token.lexeme,
        token.pos⟩
  | boolean {level : Nat} {token : Token} {s : Session χ} :
      namesBoolean token.lexeme = false →
      Blames limit ⟨level, .boolean (some token), s⟩ .invalidLiteral
        ⟨.badBoolean token.lexeme, token.pos⟩
  | var {level : Nat} {name : Token} {s : Session χ} :
      s.env.lookup? name.lexeme = none →
      Blames limit ⟨level, .var name, s⟩ .undefinedVariable ⟨.undefined name.lexeme, name.pos⟩
  | stepUnbound {level : Nat} {op : StepOp} {name operator : Token} {s : Session χ} :
      s.env.lookup? name.lexeme = none →
      Blames limit ⟨level, .step op name operator, s⟩ .undefinedVariable
        ⟨.undefined name.lexeme, name.pos⟩
  | step {level : Nat} {op : StepOp} {name operator : Token} {s : Session χ} {old : Value} :
      s.env.lookup? name.lexeme = some old → old.kind ≠ .number →
      Blames limit ⟨level, .step op name operator, s⟩ .typeMismatch
        ⟨.operand .numeric, operator.pos⟩
  | unary {level : Nat} {op : UnaryOp} {operator : Token} {operand : Expr} {s t : Session χ}
      {a : Value} {events : List Event} :
      evaluate limit (level + 1) operand s = ⟨.done a, t, events⟩ → a.kind ≠ op.accepts.kind →
      Blames limit ⟨level, .unary op operator operand, s⟩ .typeMismatch
        ⟨.operand op.accepts, operator.pos⟩
  | binary {level : Nat} {op : BinaryOp} {operator : Token} {left right : Expr} {s t u : Session χ}
      {a b : Value} {events later : List Event} {kind : OperandKind} :
      evaluate limit (level + 1) left s = ⟨.done a, t, events⟩ →
      evaluate limit (level + 1) right t = ⟨.done b, u, later⟩ →
      op.accepts? = some kind → Mismatched kind a b →
      Blames limit ⟨level, .binary op operator left right, s⟩ .typeMismatch
        ⟨.operands kind, operator.pos⟩
  | equality {level : Nat} {op : BinaryOp} {operator : Token} {left right : Expr}
      {s t u : Session χ} {a b : Value} {events later : List Event} {zone : ZoneHandle} :
      evaluate limit (level + 1) left s = ⟨.done a, t, events⟩ →
      evaluate limit (level + 1) right t = ⟨.done b, u, later⟩ →
      op.accepts? = none → Unknown (ScriptContext.cards? u.context) zone a b →
      Blames limit ⟨level, .binary op operator left right, s⟩ .invalidArgument
        ⟨.unknownZone zone, operator.pos⟩
  | player {level : Nat} {kind : ZoneKind} {player : Expr} {access : Token} {s t : Session χ}
      {a : Value} {events : List Event} :
      evaluate limit (level + 1) player s = ⟨.done a, t, events⟩ → a.kind ≠ .number →
      Blames limit ⟨level, .zoneOf kind player access, s⟩ .invalidArgument
        ⟨.playerNotANumber, access.pos⟩
  | noSuchPlayer {level : Nat} {kind : ZoneKind} {player : Expr} {access : Token} {s t : Session χ}
      {x : Float} {events : List Event} :
      evaluate limit (level + 1) player s = ⟨.done (.number x), t, events⟩ →
      ScriptContext.player? t.context (Number.toInt64 x) = none →
      Blames limit ⟨level, .zoneOf kind player access, s⟩ .unknownPlayer
        ⟨.noSuchPlayer (Number.toInt64 x), access.pos⟩
  | receiver {level : Nat} {receiver : Expr} {method : ListMethod} {name : Token}
      {arg : Option Expr} {s t : Session χ} {a : Value} {events : List Event} :
      evaluate limit (level + 1) receiver s = ⟨.done a, t, events⟩ → a.kind ≠ .cardList →
      Blames limit ⟨level, .callOf receiver method name arg, s⟩ .notAList
        ⟨.receiverNotAList name.lexeme, name.pos⟩
  | unknownList {level : Nat} {receiver : Expr} {method : ListMethod} {name : Token}
      {arg : Option Expr} {s t : Session χ} {zone : ZoneHandle} {events : List Event} :
      evaluate limit (level + 1) receiver s = ⟨.done (.cardList zone), t, events⟩ →
      ScriptContext.cards? t.context zone = none →
      Blames limit ⟨level, .callOf receiver method name arg, s⟩ .invalidArgument
        ⟨.unknownZone zone, name.pos⟩
  | overload {level : Nat} {receiver : Expr} {method : ListMethod} {name : Token}
      {arg : Option Expr} {s t : Session χ} {zone : ZoneHandle} {events : List Event} :
      evaluate limit (level + 1) receiver s = ⟨.done (.cardList zone), t, events⟩ →
      ScriptContext.cards? t.context zone ≠ none → method.takesCard ≠ arg.isSome →
      Blames limit ⟨level, .callOf receiver method name arg, s⟩ .arityMismatch
        ⟨.noOverload name.lexeme arg.toList.length, name.pos⟩
  | argument {level : Nat} {receiver arg : Expr} {m : CardMethod} {name : Token} {s t u : Session χ}
      {zone : ZoneHandle} {a : Value} {events later : List Event} :
      evaluate limit (level + 1) receiver s = ⟨.done (.cardList zone), t, events⟩ →
      ScriptContext.cards? t.context zone ≠ none →
      evaluate limit (level + 1) arg t = ⟨.done a, u, later⟩ → a.kind ≠ .card →
      Blames limit ⟨level, .callWith receiver (.card m) name arg, s⟩ .invalidArgument
        ⟨.argumentNotACard, name.pos⟩
  | closedCard {level : Nat} {receiver arg : Expr} {m : CardMethod} {name : Token}
      {s t u : Session χ} {zone : ZoneHandle} {c : CardId} {events later : List Event} :
      evaluate limit (level + 1) receiver s = ⟨.done (.cardList zone), t, events⟩ →
      ScriptContext.cards? t.context zone ≠ none →
      evaluate limit (level + 1) arg t = ⟨.done (.card c), u, later⟩ →
      ScriptContext.edit? u.context zone = none →
      Blames limit ⟨level, .callWith receiver (.card m) name arg, s⟩ .invalidArgument
        ⟨.unknownZone zone, name.pos⟩
  | closedPop {level : Nat} {receiver : Expr} {name : Token} {s t : Session χ} {zone : ZoneHandle}
      {events : List Event} :
      evaluate limit (level + 1) receiver s = ⟨.done (.cardList zone), t, events⟩ →
      ScriptContext.cards? t.context zone ≠ none → ScriptContext.edit? t.context zone = none →
      Blames limit ⟨level, .call receiver (.pile .pop) name, s⟩ .invalidArgument
        ⟨.unknownZone zone, name.pos⟩
  | closedShuffle {level : Nat} {receiver : Expr} {name : Token} {s t : Session χ}
      {zone : ZoneHandle} {cards : List CardId} {events : List Event} :
      evaluate limit (level + 1) receiver s = ⟨.done (.cardList zone), t, events⟩ →
      ScriptContext.cards? t.context zone = some cards →
      ScriptContext.edit? (drawn t.context cards) zone = none →
      Blames limit ⟨level, .call receiver (.pile .shuffle) name, s⟩ .invalidArgument
        ⟨.unknownZone zone, name.pos⟩

/-- From `s` the run enters these nodes, each behind others that are done. It is done if all of them
are, and if it fails, then by one of them or behind all of them by its own. -/
structure Accounts {α : Type} (limit : Option Nat) (x : Run χ RuntimeError α) (s : Session χ)
    (entries : List (Entry χ)) (own : RuntimeError → Prop) : Prop where
  behind : entries.Pairwise fun v _ => v.Done limit
  done : ∀ a, (x s).verdict = .done a → ∀ v ∈ entries, v.Done limit
  failed : ∀ err, (x s).verdict = .failed err →
    (∃ v ∈ entries, (v.outcome limit).verdict = .failed err ∧
      (v.outcome limit).session = (x s).session) ∨
    (∀ v ∈ entries, v.Done limit) ∧ own err

section

variable {limit : Option Nat} {level : Nat} {α β : Type} {s : Session χ} {own : RuntimeError → Prop}

theorem accounts_own {x : Run χ RuntimeError α} (h : ∀ err, (x s).verdict = .failed err → own err) :
    Accounts limit x s [] own where
  behind := .nil
  done _ _ := List.forall_mem_nil _
  failed err failed := .inr ⟨List.forall_mem_nil _, h err failed⟩

theorem Accounts.step {x : Run χ RuntimeError β} {f : β → Run χ RuntimeError α}
    {rest : β → Session χ → List (Entry χ)} (hx : ∀ err, (x s).verdict = .failed err → own err)
    (hf : ∀ a t events, x s = ⟨.done a, t, events⟩ → Accounts limit (f a) t (rest a t) own) :
    Accounts limit (x >>= f) s ((x s).next rest) own := by
  rcases run : x s with ⟨verdict, t, events⟩
  cases verdict with
  | done a =>
    obtain ⟨behind, done, failed⟩ := hf a t events run
    refine ⟨behind, ?_, ?_⟩ <;> rw [bind_of_done run]
    · exact done
    · exact failed
  | failed err =>
    have mine : own err := hx err (by rw [run])
    refine ⟨.nil, fun _ _ => List.forall_mem_nil _, ?_⟩
    rw [bind_of_failed run]
    rintro _ ⟨⟩
    exact .inr ⟨List.forall_mem_nil _, mine⟩
  | refused r =>
    refine ⟨.nil, fun _ _ => List.forall_mem_nil _, ?_⟩
    rw [bind_of_refused run]
    exact fun _ => nofun

theorem Accounts.operand {e : Expr} {f : Value → Run χ RuntimeError α}
    {rest : Value → Session χ → List (Entry χ)}
    (hf : ∀ a t events, evaluate limit level e s = ⟨.done a, t, events⟩ →
      Accounts limit (f a) t (rest a t) own) :
    Accounts limit (evaluate limit level e >>= f) s
      (⟨level, e, s⟩ :: (evaluate limit level e s).next rest) own := by
  rcases run : evaluate limit level e s with ⟨verdict, t, events⟩
  have outcome : (⟨level, e, s⟩ : Entry χ).outcome limit = ⟨verdict, t, events⟩ := run
  cases verdict with
  | done a =>
    have here : (⟨level, e, s⟩ : Entry χ).Done limit := ⟨a, by rw [outcome]⟩
    obtain ⟨behind, done, failed⟩ := hf a t events run
    refine ⟨behind.cons fun _ _ => here, ?_, ?_⟩ <;> rw [bind_of_done run]
    · exact fun b ended => List.forall_mem_cons.mpr ⟨here, done b ended⟩
    · intro err ended
      refine (failed err ended).imp ?_ ?_
      · rintro ⟨v, mem, reason⟩
        exact ⟨v, List.mem_cons_of_mem _ mem, reason⟩
      · rintro ⟨all, mine⟩
        exact ⟨List.forall_mem_cons.mpr ⟨here, all⟩, mine⟩
  | failed err =>
    refine ⟨List.pairwise_singleton _ _, ?_, ?_⟩ <;> rw [bind_of_failed run]
    · exact fun _ => nofun
    · rintro _ ⟨⟩
      exact .inl ⟨_, List.mem_cons_self, by rw [outcome], by rw [outcome]⟩
  | refused r =>
    refine ⟨List.pairwise_singleton _ _, ?_, ?_⟩ <;> rw [bind_of_refused run] <;>
      exact fun _ => nofun

theorem accounts_only {e : Expr} {f : Value → Run χ RuntimeError α}
    (hf : ∀ a t events, evaluate limit level e s = ⟨.done a, t, events⟩ →
      ∀ err, (f a t).verdict = .failed err → own err) :
    Accounts limit (evaluate limit level e >>= f) s [⟨level, e, s⟩] own := by
  have whole : Accounts limit (evaluate limit level e >>= f) s
      (⟨level, e, s⟩ :: (evaluate limit level e s).next fun _ _ => []) own :=
    .operand fun a t events done => accounts_own (hf a t events done)
  have none : (evaluate limit level e s).next (fun _ _ => ([] : List (Entry χ))) = [] :=
    Outcome.next_of_forall (p := (· = [])) rfl (fun _ _ => rfl) _
  rwa [none] at whole

end

theorem accounts_checked {limit : Option Nat} {v : Entry χ} {x : Run χ RuntimeError Value}
    {entries : List (Entry χ)}
    (h : Accounts limit x v.session entries fun err => Blames limit v err.cause.kind err) :
    Accounts limit (checkLevel limit v.level v.node.pos >>= fun _ => x) v.session
      (if admits limit v.level then entries else []) fun err =>
        Blames limit v err.cause.kind err := by
  by_cases admitted : admits limit v.level = true
  · rw [if_pos admitted, checkLevel_of_admitted admitted, pure_bind]
    exact h
  · rw [if_neg admitted]
    cases limit with
    | none => exact absurd rfl admitted
    | some m =>
      have deep : m ≤ v.level := by simpa [admits] using admitted
      refine accounts_own fun err failed => ?_
      rw [checkLevel_of_deep deep] at failed
      cases failed
      exact .tooDeep rfl deep

theorem literal_accounts {limit : Option Nat} {v : Entry χ} {token : Option Token}
    {read : String → Except Cause Value}
    (h : ∀ t cause, token = some t → read t.lexeme = .error cause →
      Blames limit v cause.kind ⟨cause, t.pos⟩) :
    Accounts limit (literal token read) v.session [] fun err =>
      Blames limit v err.cause.kind err := by
  refine accounts_own fun err failed => ?_
  cases token with
  | none => cases failed
  | some t =>
    obtain ⟨cause, pos⟩ := err
    obtain ⟨unread, rfl⟩ := located_failed_iff.mp failed
    exact h t cause rfl unread

theorem binary_accounts {limit : Option Nat} {level : Nat} {op : BinaryOp} {operator : Token}
    {left right : Expr} {s t u : Session χ} {a b : Value} {events later : List Event}
    (first : evaluate limit (level + 1) left s = ⟨.done a, t, events⟩)
    (second : evaluate limit (level + 1) right t = ⟨.done b, u, later⟩) {err : RuntimeError}
    (failed : (applyBinary op operator a b u).verdict = .failed err) :
    Blames limit ⟨level, .binary op operator left right, s⟩ err.cause.kind err := by
  obtain ⟨cause, pos⟩ := err
  obtain ⟨reason, rfl⟩ := applyBinary_failed_iff.mp failed
  rcases BinaryOp.apply_eq_error_iff.mp reason with
    ⟨kind, accepts, rfl, mismatched⟩ | ⟨accepts, zone, rfl, unknown⟩
  · exact .binary first second accepts mismatched
  · exact .equality first second accepts unknown

theorem receiver_accounts {limit : Option Nat} {level : Nat} {receiver : Expr} {method : ListMethod}
    {name : Token} {s t : Session χ} {a : Value} {events : List Event} (arg : Option Expr)
    (done : evaluate limit (level + 1) receiver s = ⟨.done a, t, events⟩) {err : RuntimeError}
    (failed : (receiverOf name a t).verdict = .failed err) :
    Blames limit ⟨level, .callOf receiver method name arg, s⟩ err.cause.kind err := by
  rcases receiverOf_failed_iff.mp failed with ⟨kind, rfl⟩ | ⟨zone, rfl, unknown, rfl⟩
  · exact .receiver done kind
  · exact .unknownList done unknown

theorem overload_accounts {limit : Option Nat} {level : Nat} {receiver : Expr} {method : ListMethod}
    {name : Token} {s t : Session χ} {zone : ZoneHandle} {events : List Event} (arg : Option Expr)
    (done : evaluate limit (level + 1) receiver s = ⟨.done (.cardList zone), t, events⟩)
    (shown : ScriptContext.cards? t.context zone ≠ none) (wrong : method.takesCard ≠ arg.isSome)
    {err : RuntimeError} (failed : (noOverload name arg.toList.length t).verdict = .failed err) :
    Blames limit ⟨level, .callOf receiver method name arg, s⟩ err.cause.kind err := by
  cases noOverload_failed_iff.mp failed
  exact .overload done shown wrong

theorem callOn_accounts {limit : Option Nat} {level : Nat} {receiver : Expr} {method : ListMethod}
    {name : Token} {s t : Session χ} {zone : ZoneHandle} {events : List Event}
    (done : evaluate limit (level + 1) receiver s = ⟨.done (.cardList zone), t, events⟩)
    (shown : ScriptContext.cards? t.context zone ≠ none) {err : RuntimeError}
    (failed : (callOn method zone name t).verdict = .failed err) :
    Blames limit ⟨level, .call receiver method name, s⟩ err.cause.kind err := by
  rcases method with m | (_ | _)
  · exact overload_accounts none done shown (by simp [ListMethod.takesCard]) failed
  · obtain ⟨closed, rfl⟩ := pop_failed_iff.mp failed
    exact .closedPop done shown closed
  · obtain ⟨cards, shown⟩ := Option.ne_none_iff_exists'.mp shown
    obtain ⟨closed, rfl⟩ := (shuffle_failed_iff shown).mp failed
    exact .closedShuffle done shown closed

theorem evaluate_accounts (limit : Option Nat) (v : Entry χ) :
    Accounts limit (evaluate limit v.level v.node) v.session (v.operands limit) fun err =>
      Blames limit v err.cause.kind err := by
  obtain ⟨level, node, s⟩ := v
  cases node with
  | number token =>
    refine accounts_checked (literal_accounts fun t cause here unread => ?_)
    obtain ⟨rfl, unreadable⟩ := numberLiteral_eq_error_iff.mp unread
    subst here
    exact .number unreadable
  | text token => exact accounts_checked (literal_accounts (by rintro _ _ _ ⟨⟩))
  | boolean token =>
    refine accounts_checked (literal_accounts fun t cause here unread => ?_)
    obtain ⟨rfl, unreadable⟩ := booleanLiteral_eq_error_iff.mp unread
    subst here
    exact .boolean unreadable
  | var name =>
    refine accounts_checked (accounts_own fun err failed => ?_)
    obtain ⟨unbound, rfl⟩ := variableOf_failed_iff.mp failed
    exact .var unbound
  | group inner =>
    have whole : Accounts limit (evaluate limit (level + 1) inner >>= pure) s
        [⟨level + 1, inner, s⟩]
        fun err => Blames limit ⟨level, .group inner, s⟩ err.cause.kind err :=
      accounts_only fun a t events done err => nofun
    rw [bind_pure_apply] at whole
    exact accounts_checked whole
  | unary op operator operand =>
    refine accounts_checked (accounts_only fun a t events done err failed => ?_)
    obtain ⟨cause, pos⟩ := err
    obtain ⟨reason, rfl⟩ := located_failed_iff.mp failed
    obtain ⟨rfl, mismatch⟩ := UnaryOp.apply_eq_error_iff.mp reason
    exact .unary done mismatch
  | binary op operator left right =>
    refine accounts_checked (.operand fun a t events first => ?_)
    exact accounts_only fun b u later second err failed => binary_accounts first second failed
  | assign name value =>
    refine accounts_checked (accounts_only fun a t events done err failed => ?_)
    exact absurd failed assignTo_not_failed
  | step op name operator =>
    refine accounts_checked (accounts_own fun err failed => ?_)
    rcases stepOn_failed_iff.mp failed with ⟨unbound, rfl⟩ | ⟨old, bound, kind, rfl⟩
    · exact .stepUnbound unbound
    · exact .step bound kind
  | trigger token => exact accounts_checked (accounts_own fun err => nofun)
  | zone kind access =>
    exact accounts_checked (accounts_own fun err failed => absurd failed listOf_not_failed)
  | zoneOf kind player access =>
    refine accounts_checked (accounts_only fun a t events done err failed => ?_)
    rcases numberedZone_failed_iff.mp failed with ⟨mismatch, rfl⟩ | ⟨x, rfl, none, rfl⟩
    · exact .player done mismatch
    · exact .noSuchPlayer done none
  | call receiver method name =>
    refine accounts_checked (accounts_only fun a t events done err failed => ?_)
    rcases bind_failed_iff.mp failed with rejected | ⟨zone, u, later, accepted, failed⟩
    · exact receiver_accounts none done rejected
    · obtain ⟨rfl, shown, rfl, -⟩ := receiverOf_done_iff.mp accepted
      exact callOn_accounts done shown failed
  | callWith receiver method name arg =>
    cases method with
    | pile m =>
      refine accounts_checked (accounts_only fun a t events done err failed => ?_)
      rcases bind_failed_iff.mp failed with rejected | ⟨zone, u, later, accepted, failed⟩
      · exact receiver_accounts (some arg) done rejected
      · obtain ⟨rfl, shown, rfl, -⟩ := receiverOf_done_iff.mp accepted
        exact overload_accounts (some arg) done shown (by simp [ListMethod.takesCard]) failed
    | card m =>
      refine accounts_checked
        (.operand fun a t events done =>
          .step (fun err rejected => receiver_accounts (some arg) done rejected)
            fun zone u later accepted => ?_)
      obtain ⟨rfl, shown, rfl, -⟩ := receiverOf_done_iff.mp accepted
      refine accounts_only fun given u last ran err failed => ?_
      rcases bind_failed_iff.mp failed with rejected | ⟨c, w, more, taken, failed⟩
      · obtain ⟨mismatch, rfl⟩ := cardArgument_failed_iff.mp rejected
        exact .argument done shown ran mismatch
      · obtain ⟨rfl, rfl, -⟩ := cardArgument_done_iff.mp taken
        obtain ⟨closed, rfl⟩ := applyCard_failed_iff.mp failed
        exact .closedCard done shown ran closed

theorem receiverOf_of_shown (name : Token) {zone : ZoneHandle} {t : Session χ}
    (shown : ScriptContext.cards? t.context zone ≠ none) :
    receiverOf name (.cardList zone) t = ⟨.done zone, t, []⟩ :=
  receiverOf_done_iff.mpr ⟨rfl, shown, rfl, rfl⟩

/-- Where there is a reason to fail, the node does. -/
theorem Blames.failed {limit : Option Nat} {v : Entry χ} {kind : ErrorKind} {err : RuntimeError}
    (blames : Blames limit v kind err)
    (entered : kind ≠ .depthExceeded → admits limit v.level = true) :
    (v.outcome limit).verdict = .failed err := by
  have first {level : Nat} {pos : SourcePos} {x : Run χ RuntimeError Value} {s : Session χ}
      (admitted : admits limit level = true) (h : (x s).verdict = .failed err) :
      ((checkLevel limit level pos >>= fun _ => x) s).verdict = .failed err := by
    rw [checkLevel_of_admitted admitted, pure_bind]
    exact h
  have behind {level : Nat} {pos : SourcePos} {e : Expr} {f : Value → Run χ RuntimeError Value}
      {s t : Session χ} {a : Value} {events : List Event}
      (done : evaluate limit (level + 1) e s = ⟨.done a, t, events⟩)
      (h : (f a t).verdict = .failed err) :
      ((checkLevel limit level pos >>= fun _ => evaluate limit (level + 1) e >>= f) s).verdict =
        .failed err := by
    rw [checkLevel_of_done done, pure_bind]
    exact failed_of_done done h
  cases blames with
  | @tooDeep _ m here deep =>
    rw [Entry.outcome, here, evaluate_of_deep deep]
  | number unreadable =>
    exact first (entered nofun) (located_failed_iff.mpr
      ⟨numberLiteral_eq_error_iff.mpr ⟨rfl, unreadable⟩, rfl⟩)
  | boolean unreadable =>
    exact first (entered nofun) (located_failed_iff.mpr
      ⟨booleanLiteral_eq_error_iff.mpr ⟨rfl, unreadable⟩, rfl⟩)
  | var unbound => exact first (entered nofun) (variableOf_failed_iff.mpr ⟨unbound, rfl⟩)
  | stepUnbound unbound => exact first (entered nofun) (stepOn_failed_iff.mpr (.inl ⟨unbound, rfl⟩))
  | step bound kind =>
    exact first (entered nofun) (stepOn_failed_iff.mpr (.inr ⟨_, bound, kind, rfl⟩))
  | unary done mismatch =>
    exact behind done (located_failed_iff.mpr ⟨UnaryOp.apply_eq_error_iff.mpr ⟨rfl, mismatch⟩, rfl⟩)
  | binary done ran accepts mismatched =>
    exact behind done (failed_of_done ran (applyBinary_failed_iff.mpr
      ⟨BinaryOp.apply_eq_error_iff.mpr (.inl ⟨_, accepts, rfl, mismatched⟩), rfl⟩))
  | equality done ran accepts unknown =>
    exact behind done (failed_of_done ran (applyBinary_failed_iff.mpr
      ⟨BinaryOp.apply_eq_error_iff.mpr (.inr ⟨accepts, _, rfl, unknown⟩), rfl⟩))
  | player done mismatch => exact behind done (numberedZone_failed_iff.mpr (.inl ⟨mismatch, rfl⟩))
  | noSuchPlayer done none =>
    exact behind done (numberedZone_failed_iff.mpr (.inr ⟨_, rfl, none, rfl⟩))
  | @receiver _ _ _ _ arg _ _ _ _ done mismatch =>
    cases arg <;> exact behind done
      (bind_failed_iff.mpr (.inl (receiverOf_failed_iff.mpr (.inl ⟨mismatch, rfl⟩))))
  | @unknownList _ _ _ _ arg _ _ _ _ done unknown =>
    cases arg <;> exact behind done
      (bind_failed_iff.mpr (.inl (receiverOf_failed_iff.mpr (.inr ⟨_, rfl, unknown, rfl⟩))))
  | @overload _ _ method name arg _ _ _ _ done shown wrong =>
    have known := receiverOf_of_shown name shown
    cases arg with
    | none =>
      cases method with
      | card m => exact behind done (failed_of_done known (noOverload_failed_iff.mpr rfl))
      | pile m => exact absurd rfl wrong
    | some arg =>
      cases method with
      | card m => exact absurd rfl wrong
      | pile m => exact behind done (failed_of_done known (noOverload_failed_iff.mpr rfl))
  | argument done shown ran mismatch =>
    exact behind done
      (failed_of_done (receiverOf_of_shown _ shown)
        (failed_of_done ran
          (bind_failed_iff.mpr (.inl (cardArgument_failed_iff.mpr ⟨mismatch, rfl⟩)))))
  | closedCard done shown ran closed =>
    exact behind done (failed_of_done (receiverOf_of_shown _ shown)
      (failed_of_done ran (failed_of_done (cardArgument_done_iff.mpr ⟨rfl, rfl, rfl⟩)
        (applyCard_failed_iff.mpr ⟨closed, rfl⟩))))
  | closedPop done shown closed =>
    exact behind done
      (failed_of_done (receiverOf_of_shown _ shown) (pop_failed_iff.mpr ⟨closed, rfl⟩))
  | closedShuffle done shown closed =>
    have known : ScriptContext.cards? _ _ ≠ none := Option.ne_none_iff_exists'.mpr ⟨_, shown⟩
    exact behind done (failed_of_done (receiverOf_of_shown _ known)
      ((shuffle_failed_iff shown).mpr ⟨closed, rfl⟩))

namespace Entry

variable {limit : Option Nat} {v w : Entry χ}

theorem nodes_operands (limit : Option Nat) (v : Entry χ) :
    (v.operands limit).map (·.node) <+: v.node.children := by
  obtain ⟨level, node, s⟩ := v
  have later {α : Type} {e : Expr} {f : α → Session χ → List (Entry χ)}
      (h : ∀ a t, (f a t).map (·.node) <+: [e]) (o : Outcome χ RuntimeError α) :
      (o.next f).map (·.node) <+: [e] :=
    o.next_of_forall (p := fun entries => entries.map Entry.node <+: [e]) List.nil_prefix h
  simp only [operands]
  split
  · cases node with
    | binary op operator left right =>
      exact (List.prefix_cons_inj left).mpr (later (fun _ _ => List.prefix_rfl) _)
    | callWith receiver method name arg =>
      cases method with
      | card m =>
        exact (List.prefix_cons_inj receiver).mpr
          (later (fun a t => later (fun _ _ => List.prefix_rfl) _) _)
      | pile m => exact ⟨[arg], rfl⟩
    | _ => exact List.prefix_rfl
  · exact List.nil_prefix

theorem node_of_operand {i : Nat} (h : (v.operands limit)[i]? = some w) :
    v.node.children[i]? = some w.node := by
  obtain ⟨rest, split⟩ := nodes_operands limit v
  rw [← split, List.getElem?_append_left, List.getElem?_map, h]
  · rfl
  · simpa using (List.getElem?_eq_some_iff.mp h).1

theorem node_of_at? {path : List Nat} (h : v.at? limit path = some w) :
    v.node.at? path = some w.node := by
  induction path generalizing v with
  | nil =>
    cases h
    rfl
  | cons i path ih =>
    obtain ⟨u, operand, below⟩ := Option.bind_eq_some_iff.mp h
    rw [Expr.at?, node_of_operand operand, Option.bind_some]
    exact ih below

theorem Done.below (done : v.Done limit) {path : List Nat} (h : v.at? limit path = some w) :
    w.Done limit := by
  induction path generalizing v with
  | nil =>
    cases h
    exact done
  | cons i path ih =>
    obtain ⟨u, operand, below⟩ := Option.bind_eq_some_iff.mp h
    obtain ⟨a, ended⟩ := done
    exact ih ((evaluate_accounts limit v).done a ended u (List.mem_of_getElem? operand)) below

theorem AtFault.not_done (fault : w.AtFault limit) : ¬ w.Done limit := by
  rintro ⟨a, done⟩
  obtain ⟨-, err, failed⟩ := fault
  rw [done] at failed
  cases failed

theorem at?_unique {v w w' : Entry χ} {path path' : List Nat} (h : v.at? limit path = some w)
    (h' : v.at? limit path' = some w') (fault : w.AtFault limit) (fault' : w'.AtFault limit) :
    path = path' := by
  induction path generalizing v path' with
  | nil =>
    cases h
    cases path' with
    | nil => rfl
    | cons j path' =>
      obtain ⟨u, operand, below⟩ := Option.bind_eq_some_iff.mp h'
      exact absurd ((fault.1 u (List.mem_of_getElem? operand)).below below) fault'.not_done
  | cons i path ih =>
    obtain ⟨u, operand, below⟩ := Option.bind_eq_some_iff.mp h
    cases path' with
    | nil =>
      cases h'
      exact absurd ((fault'.1 u (List.mem_of_getElem? operand)).below below) fault.not_done
    | cons j path' =>
      obtain ⟨u', operand', below'⟩ := Option.bind_eq_some_iff.mp h'
      obtain ⟨lt, rfl⟩ := List.getElem?_eq_some_iff.mp operand
      obtain ⟨lt', rfl⟩ := List.getElem?_eq_some_iff.mp operand'
      have behind := List.pairwise_iff_getElem.mp (evaluate_accounts limit v).behind
      rcases Nat.lt_trichotomy i j with before | rfl | after
      · exact absurd ((behind i j lt lt' before).below below) fault.not_done
      · rw [ih below below']
      · exact absurd ((behind j i lt' lt after).below below') fault'.not_done

theorem exists_fault {v : Entry χ} {err : RuntimeError}
    (failed : (v.outcome limit).verdict = .failed err) :
    ∃ path w, v.at? limit path = some w ∧ (∀ u ∈ w.operands limit, u.Done limit) ∧
      (w.outcome limit).verdict = .failed err ∧
      (w.outcome limit).session = (v.outcome limit).session ∧
      Blames limit w err.cause.kind err := by
  rcases (evaluate_accounts limit v).failed err failed with ⟨u, mem, failed', same⟩ | ⟨all, mine⟩
  · have smaller : sizeOf u.node < sizeOf v.node :=
      Expr.sizeOf_child ((nodes_operands limit v).subset (List.mem_map_of_mem mem))
    obtain ⟨path, w, below, all, last, session, reason⟩ := exists_fault failed'
    obtain ⟨i, operand⟩ := List.getElem?_of_mem mem
    have entered : v.at? limit (i :: path) = some w := by
      rw [Entry.at?, operand, Option.bind_some, below]
    exact ⟨i :: path, w, entered, all, last, session.trans same, reason⟩
  · exact ⟨[], v, rfl, all, failed, rfl, mine⟩
termination_by sizeOf v.node

end Entry

/-- An evaluation that fails does so at one node only of those it entered, behind operands that are
all done. The error is one that this node gives in the session that its operands left, and the
evaluation ends there. -/
theorem errors_blame_one_node (config : EvalConfig) (e : Expr) (s : Session χ) {err : RuntimeError}
    (failed : (config.run e s).verdict = .failed err) :
    let limit := some config.maxDepth
    let root : Entry χ := ⟨0, e, s⟩
    ∃ path w, root.at? limit path = some w ∧ e.at? path = some w.node ∧
      (∀ u ∈ w.operands limit, u.Done limit) ∧
      w.outcome limit = ⟨.failed err, (config.run e s).session, (w.outcome limit).events⟩ ∧
      Blames limit w err.cause.kind err ∧
      ∀ other u, root.at? limit other = some u → u.AtFault limit → other = path := by
  intro limit root
  rw [EvalConfig.run_eq] at failed ⊢
  obtain ⟨path, w, entered, all, last, session, reason⟩ := Entry.exists_fault (v := root) failed
  refine ⟨path, w, entered, Entry.node_of_at? entered, all, ?_, reason,
    fun other u entered' fault => ?_⟩
  · rw [← last, show evaluate _ _ _ _ = root.outcome limit from rfl, ← session]
  · exact Entry.at?_unique entered' entered fault ⟨all, err, last⟩

theorem errors_blame_one_node_push :
    let config : EvalConfig := ⟨9⟩
    let deck := MatchState.handleOf .deck ⟨0⟩
    let dealt : MatchState :=
      ⟨1, ⟨0⟩, (MatchState.layout 1).setCards deck [⟨1⟩, ⟨2⟩], ∅, .ofSeed 0, ⟨3⟩⟩
    let pop := Expr.ofCall (.ofZone .deck) (.pile .pop)
    let push := Expr.callWith (.ofZone .hand) (.card .push) ⟨"Push", ⟨1, 21⟩⟩ (.ofBool true)
    let e := Expr.ofUnary .not (.ofBinary .equal pop push)
    let s : Session MatchState := ⟨.empty, dealt⟩
    let err : RuntimeError := ⟨.argumentNotACard, ⟨1, 21⟩⟩
    let popped : Entry MatchState := ⟨2, push, (evaluate (some 9) 2 pop s).session⟩
    (config.run e s).verdict = .failed err ∧
      (⟨0, e, s⟩ : Entry MatchState).at? (some 9) [0, 1] = some popped ∧
      Blames (some 9) popped .invalidArgument err ∧
      ∀ other u, (⟨0, e, s⟩ : Entry MatchState).at? (some 9) other = some u → u.AtFault (some 9) →
        other = [0, 1] := by
  intro config deck dealt pop push e s err popped
  have failed : (config.run e s).verdict = .failed err := rfl
  have entered : (⟨0, e, s⟩ : Entry MatchState).at? (some 9) [0, 1] = some popped := rfl
  have fault : popped.AtFault (some 9) := by
    refine ⟨?_, err, rfl⟩
    rintro u (_ | ⟨_, _ | ⟨_, ⟨⟩⟩⟩)
    · exact ⟨_, rfl⟩
    · exact ⟨_, rfl⟩
  obtain ⟨path, w, here, -, -, -, reason, only⟩ := errors_blame_one_node config e s failed
  obtain rfl : [0, 1] = path := only _ _ entered fault
  obtain rfl : popped = w := Option.some.inj (entered.symm.trans here)
  exact ⟨failed, entered, reason, only⟩

end CardEffects
