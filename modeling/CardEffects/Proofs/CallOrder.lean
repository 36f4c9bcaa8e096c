import CardEffects.Proofs.Causes

/-!
# The order of calls

The log of a run tells which methods were called. They are those of the expression, left before
right and the receiver before the argument before the call itself; none is left out, whatever the
operands around it are, and none is called twice. A run that fails has made the calls up to the
failure, and its log ends with the argument that was turned down, if that is why it failed.
-/

namespace CardEffects

/-- The methods of the calls in the expression, each after what is called for its receiver and its
argument. -/
def Expr.calls : Expr → List ListMethod
  | .number _ | .text _ | .boolean _ | .var _ | .step _ _ _ | .trigger _ | .zone _ _ => []
  | .group inner => inner.calls
  | .unary _ _ operand => operand.calls
  | .binary _ _ left right => left.calls ++ right.calls
  | .assign _ value => value.calls
  | .zoneOf _ player _ => player.calls
  | .call receiver method _ => receiver.calls ++ [method]
  | .callWith receiver method _ arg => receiver.calls ++ (arg.calls ++ [method])

def ZoneChange.method : ZoneChange → ListMethod
  | pushed _ => .card .push
  | sentBottom _ => .card .sendBottom
  | removed _ _ => .card .remove
  | popped _ => .pile .pop
  | shuffled => .pile .shuffle

def Event.method? : Event → Option ListMethod
  | changed _ change => some change.method
  | _ => none

def ListMethod.notice : ListMethod → String
  | card .push => "pushed card to front"
  | card .sendBottom => "sent card to bottom"
  | card .remove => "remove"
  | pile .pop => "popped front card"
  | pile .shuffle => "shuffled"

/-- The method of an event can be told from its message. -/
theorem Event.method?_eq_some_iff {event : Event} {m : ListMethod} :
    event.method? = some m ↔ event.record.message = m.notice := by
  cases event with
  | changed zone change =>
    rcases m with m | m <;> cases m <;> cases change <;>
      simp [method?, ZoneChange.method, record, ZoneChange.record, ListMethod.notice]
  | _ => rcases m with m | m <;> cases m <;> simp [method?, record, ListMethod.notice]

/-- Whether a value was turned down that the log then tells of. -/
def Cause.isNoted : Cause → Bool
  | receiverNotAList _ | playerNotANumber | argumentNotACard => true
  | _ => false

theorem Cause.isNoted_iff {cause : Cause} : cause.isNoted = true ↔
    cause.kind = .notAList ∨ cause = .playerNotANumber ∨ cause = .argumentNotACard := by
  cases cause <;> simp [isNoted, kind]

/-- The log ends with the value turned down if that is the cause, and with no more than one. -/
structure Cause.EndsLog (cause : Cause) (rejections : List Event) : Prop where
  one : rejections.length ≤ 1
  all : ∀ event ∈ rejections, event.isRejection = true
  iff : rejections ≠ [] ↔
    cause.kind = .notAList ∨ cause = .playerNotANumber ∨ cause = .argumentNotACard

theorem Cause.endsLog_nil {cause : Cause} (silent : cause.isNoted = false) : cause.EndsLog [] :=
  ⟨by simp, by simp, by simp [← isNoted_iff, silent]⟩

theorem Cause.endsLog_singleton {cause : Cause} {event : Event} (noted : cause.isNoted = true)
    (rejection : event.isRejection = true) : cause.EndsLog [event] :=
  ⟨by simp, by simpa using rejection, by simp [← isNoted_iff, noted]⟩

def Tell (events : List Event) (performed : List ListMethod) (rejections : List Event) : Prop :=
  ∃ changes, events = changes ++ rejections ∧ changes.map Event.method? = performed.map some

/-- A run that is done has made the calls, and one that is not has made them up to some point. -/
def Outcome.Tells {χ α : Type} (calls : List ListMethod) (o : Outcome χ RuntimeError α) : Prop :=
  match o.verdict with
  | .done _ => Tell o.events calls []
  | .failed err => ∃ performed rejections, Tell o.events performed rejections ∧
      performed <+: calls ∧ err.cause.EndsLog rejections
  | .refused _ => ∃ performed, Tell o.events performed [] ∧ performed <+: calls

theorem Tell.append {events later rejections : List Event} {performed more : List ListMethod}
    (first : Tell events performed []) (rest : Tell later more rejections) :
    Tell (events ++ later) (performed ++ more) rejections := by
  obtain ⟨changes, rfl, same⟩ := first
  obtain ⟨further, rfl, also⟩ := rest
  exact ⟨changes ++ further, by simp, by rw [List.map_append, List.map_append, same, also]⟩

theorem tell_nil (rejections : List Event) : Tell rejections [] rejections := ⟨[], rfl, rfl⟩

theorem numberLiteral_silent (lexeme : String) (cause : Cause)
    (failed : numberLiteral lexeme = .error cause) : cause.isNoted = false := by
  rw [(numberLiteral_eq_error_iff.mp failed).1]
  rfl

theorem booleanLiteral_silent (lexeme : String) (cause : Cause)
    (failed : booleanLiteral lexeme = .error cause) : cause.isNoted = false := by
  rw [(booleanLiteral_eq_error_iff.mp failed).1]
  rfl

namespace Run

section

variable {χ α β : Type} {calls later : List ListMethod}

def Tells (calls : List ListMethod) (x : Run χ RuntimeError α) : Prop := ∀ s, (x s).Tells calls

theorem Tells.bind {x : Run χ RuntimeError α} {f : α → Run χ RuntimeError β} (hx : x.Tells calls)
    (hf : ∀ a, (f a).Tells later) : (x >>= f).Tells (calls ++ later) := by
  intro s
  have first := hx s
  rcases run : x s with ⟨verdict, t, events⟩
  rw [run] at first
  cases verdict with
  | done a =>
    have made : Tell events calls [] := first
    have rest := hf a t
    rw [bind_of_done run]
    rcases next : f a t with ⟨verdict, u, further⟩
    rw [next] at rest
    cases verdict with
    | done b => exact made.append rest
    | failed err =>
      obtain ⟨performed, rejections, told, upTo, ends⟩ := rest
      exact ⟨calls ++ performed, rejections, made.append told,
        (List.prefix_append_right_inj calls).mpr upTo, ends⟩
    | refused r =>
      obtain ⟨performed, told, upTo⟩ := rest
      exact ⟨calls ++ performed, made.append told, (List.prefix_append_right_inj calls).mpr upTo⟩
  | failed err =>
    obtain ⟨performed, rejections, told, upTo, ends⟩ := first
    rw [bind_of_failed run]
    exact ⟨performed, rejections, told, upTo.trans (List.prefix_append calls later), ends⟩
  | refused r =>
    obtain ⟨performed, told, upTo⟩ := first
    rw [bind_of_refused run]
    exact ⟨performed, told, upTo.trans (List.prefix_append calls later)⟩

theorem Tells.bind_quiet {x : Run χ RuntimeError α} {f : α → Run χ RuntimeError β}
    (hx : x.Tells calls) (hf : ∀ a, (f a).Tells []) : (x >>= f).Tells calls := by
  have whole := hx.bind hf
  rwa [List.append_nil] at whole

theorem bind_congr_of_done {ε : Type} {x : Run χ ε α} {f g : α → Run χ ε β} {s : Session χ}
    (h : ∀ a t events, x s = ⟨.done a, t, events⟩ → f a t = g a t) : (x >>= f) s = (x >>= g) s := by
  rcases run : x s with ⟨verdict, t, events⟩
  cases verdict with
  | done a => rw [bind_of_done run, bind_of_done run, h a t events run]
  | failed err => rw [bind_of_failed run, bind_of_failed run]
  | refused r => rw [bind_of_refused run, bind_of_refused run]

theorem tells_getEnv {f : Environment → Run χ RuntimeError α} (hf : ∀ env, (f env).Tells calls) :
    (getEnv >>= f).Tells calls := fun s => hf s.env s

theorem tells_getContext {f : χ → Run χ RuntimeError α} (hf : ∀ context, (f context).Tells calls) :
    (getContext >>= f).Tells calls := fun s => hf s.context s

theorem tells_setContext (context : χ) {x : Run χ RuntimeError α} (hx : x.Tells calls) :
    (setContext context >>= fun _ => x).Tells calls := fun s => hx { s with context }

theorem tells_pure (a : α) : (pure a : Run χ RuntimeError α).Tells [] := fun _ => tell_nil []

theorem tells_fail {cause : Cause} (silent : cause.isNoted = false) (pos : SourcePos) :
    (fail ⟨cause, pos⟩ : Run χ RuntimeError α).Tells calls :=
  fun _ => ⟨[], [], tell_nil [], List.nil_prefix, Cause.endsLog_nil silent⟩

theorem tells_rejected {cause : Cause} {event : Event} (rejection : event.isRejection = true)
    (noted : cause.isNoted = true) (pos : SourcePos) :
    (emit event >>= fun _ => fail ⟨cause, pos⟩ : Run χ RuntimeError α).Tells calls :=
  fun _ => ⟨[], [event], tell_nil [event], List.nil_prefix, Cause.endsLog_singleton noted rejection⟩

theorem tells_located {r : Except Cause α}
    (silent : ∀ cause, r = .error cause → cause.isNoted = false) (pos : SourcePos) :
    (located (χ := χ) pos r).Tells [] := by
  cases r with
  | ok a => exact tells_pure a
  | error cause => exact tells_fail (silent cause rfl) pos

theorem tells_listOf (r : Except Refusal ZoneHandle) :
    (ofContext r >>= fun zone => pure (.cardList zone) : Run χ RuntimeError Value).Tells [] := by
  cases r with
  | ok zone => exact tells_pure _
  | error r => exact fun _ => ⟨[], tell_nil [], List.nil_prefix⟩

theorem tells_emit_changed (zone : ZoneHandle) (change : ZoneChange) (a : α) :
    (emit (.changed zone change) >>= fun _ => pure a : Run χ RuntimeError α).Tells
      [change.method] :=
  fun _ => ⟨[.changed zone change], rfl, rfl⟩

end

section

variable {χ : Type}

theorem tells_checkLevel (limit : Option Nat) (level : Nat) (pos : SourcePos) :
    (checkLevel (χ := χ) limit level pos).Tells [] := by
  simp only [checkLevel]
  split
  · split
    · exact tells_fail rfl pos
    · exact tells_pure ()
  · exact tells_pure ()

theorem tells_literal {read : String → Except Cause Value}
    (silent : ∀ lexeme cause, read lexeme = .error cause → cause.isNoted = false)
    (token : Option Token) : (literal (χ := χ) token read).Tells [] := by
  cases token with
  | none => exact tells_pure _
  | some token => exact tells_located (silent token.lexeme) token.pos

theorem tells_variableOf (name : Token) : (variableOf (χ := χ) name).Tells [] := by
  refine tells_getEnv fun env => ?_
  split
  · exact tells_pure _
  · exact tells_fail rfl name.pos

theorem tells_assignTo (name : Token) (v : Value) : (assignTo (χ := χ) name v).Tells [] := by
  intro s
  by_cases null : v.isNull
  · simp only [assignTo, null]
    exact tell_nil []
  · simp only [assignTo, null]
    exact tell_nil []

theorem tells_stepOn (op : StepOp) (name operator : Token) :
    (stepOn (χ := χ) op name operator).Tells [] := by
  refine (tells_variableOf name).bind_quiet fun v => ?_
  cases v with
  | number old => exact fun s => tell_nil []
  | _ => exact tells_fail rfl operator.pos

theorem tells_unary (op : UnaryOp) (operator : Token) (v : Value) :
    (located (χ := χ) operator.pos (op.apply v)).Tells [] := by
  refine tells_located (fun cause failed => ?_) operator.pos
  rw [(UnaryOp.apply_eq_error_iff.mp failed).1]
  rfl

theorem tells_cardArgument (name : Token) (v : Value) :
    (cardArgument (χ := χ) name v).Tells [] := by
  cases v with
  | card c => exact tells_pure c
  | _ => exact tells_rejected rfl rfl name.pos

theorem tells_noOverload (name : Token) (given : Nat) (calls : List ListMethod) :
    (noOverload (χ := χ) name given).Tells calls := tells_fail rfl name.pos

end

variable {χ : Type} [ScriptContext χ]

theorem tells_triggerPlayer : (triggerPlayer (χ := χ)).Tells [] :=
  tells_getContext fun _ => tells_pure _

theorem tells_activeZone (kind : ZoneKind) : (activeZone (χ := χ) kind).Tells [] :=
  tells_getContext fun _ => tells_listOf _

theorem tells_numberedZone (kind : ZoneKind) (access : Token) (player : Value) :
    (numberedZone (χ := χ) kind access player).Tells [] := by
  cases player with
  | number x =>
    refine tells_getContext fun context => ?_
    split
    · exact tells_listOf _
    · exact tells_fail rfl access.pos
  | _ => exact tells_rejected rfl rfl access.pos

theorem tells_applyBinary (op : BinaryOp) (operator : Token) (a b : Value) :
    (applyBinary (χ := χ) op operator a b).Tells [] := by
  refine tells_getContext fun context => tells_located (fun cause failed => ?_) operator.pos
  rcases BinaryOp.apply_eq_error_iff.mp failed with ⟨kind, -, rfl, -⟩ | ⟨-, zone, rfl, -⟩ <;> rfl

theorem tells_cardsOf (zone : ZoneHandle) (pos : SourcePos) :
    (cardsOf (χ := χ) zone pos).Tells [] := by
  refine tells_getContext fun context => ?_
  split
  · exact tells_pure _
  · exact tells_fail rfl pos

theorem tells_editOf (zone : ZoneHandle) (pos : SourcePos) :
    (editOf (χ := χ) zone pos).Tells [] := by
  refine tells_getContext fun context => ?_
  split
  · exact tells_pure _
  · exact tells_fail rfl pos

theorem tells_receiverOf (name : Token) (receiver : Value) :
    (receiverOf (χ := χ) name receiver).Tells [] := by
  cases receiver with
  | cardList zone => exact (tells_cardsOf zone name.pos).bind_quiet fun _ => tells_pure zone
  | _ => exact tells_rejected rfl rfl name.pos

theorem tells_edited {zone : ZoneHandle} {pos : SourcePos} {method : ListMethod}
    {put : ZoneEdit χ → χ} {change : ZoneEdit χ → ZoneChange} {result : ZoneEdit χ → Value}
    (told : ∀ edit, (change edit).method = method) :
    (editOf zone pos >>= fun edit => setContext (put edit) >>= fun _ =>
      emit (.changed zone (change edit)) >>= fun _ => pure (result edit) :
      Run χ RuntimeError Value).Tells [method] := by
  refine (tells_editOf zone pos).bind fun edit => tells_setContext _ ?_
  rw [← told edit]
  exact tells_emit_changed zone (change edit) _

theorem tells_applyCard (m : CardMethod) (zone : ZoneHandle) (c : CardId) (pos : SourcePos) :
    (applyCard (χ := χ) m zone c pos).Tells [.card m] :=
  tells_edited fun edit => by cases m <;> rfl

theorem tells_applyPile (m : PileMethod) (zone : ZoneHandle) (pos : SourcePos) :
    (applyPile (χ := χ) m zone pos).Tells [.pile m] := by
  cases m with
  | pop => exact tells_edited fun _ => rfl
  | shuffle =>
    exact (tells_cardsOf zone pos).bind fun cards => tells_getContext fun context =>
      tells_setContext _ (tells_edited fun _ => rfl)

theorem tells_callOn (method : ListMethod) (zone : ZoneHandle) (name : Token) :
    (callOn (χ := χ) method zone name).Tells [method] := by
  cases method with
  | pile m => exact tells_applyPile m zone name.pos
  | card m => exact tells_noOverload name 0 _

theorem evaluate_tells (limit : Option Nat) (level : Nat) (e : Expr) :
    (evaluate (χ := χ) limit level e).Tells e.calls := by
  have enter (level : Nat) (pos : SourcePos) {calls : List ListMethod}
      {x : Run χ RuntimeError Value}
      (hx : x.Tells calls) : (checkLevel limit level pos >>= fun _ => x).Tells calls :=
    (tells_checkLevel limit level pos).bind fun _ => hx
  induction e generalizing level with
  | number token => exact enter _ _ (tells_literal numberLiteral_silent token)
  | text token => exact enter _ _ (tells_literal (by rintro _ _ ⟨⟩) token)
  | boolean token => exact enter _ _ (tells_literal booleanLiteral_silent token)
  | var name => exact enter _ _ (tells_variableOf name)
  | group inner ih => exact enter _ _ (ih (level + 1))
  | unary op operator operand ih =>
    exact enter _ _ ((ih (level + 1)).bind_quiet fun v => tells_unary _ _ v)
  | binary op operator left right ihl ihr =>
    exact enter _ _ ((ihl (level + 1)).bind fun a => (ihr (level + 1)).bind_quiet fun b =>
      tells_applyBinary _ _ a b)
  | assign name value ih =>
    exact enter _ _ ((ih (level + 1)).bind_quiet fun v => tells_assignTo _ v)
  | step op name operator => exact enter _ _ (tells_stepOn _ _ _)
  | trigger token => exact enter _ _ tells_triggerPlayer
  | zone kind access => exact enter _ _ (tells_activeZone _)
  | zoneOf kind player access ih =>
    exact enter _ _ ((ih (level + 1)).bind_quiet fun v => tells_numberedZone _ _ v)
  | call receiver method name ih =>
    exact enter _ _ ((ih (level + 1)).bind fun v =>
      (tells_receiverOf name v).bind fun zone => tells_callOn method zone name)
  | callWith receiver method name arg ihr iha =>
    refine enter _ _ ((ihr (level + 1)).bind fun v => (tells_receiverOf name v).bind fun zone => ?_)
    cases method with
    | card m =>
      exact (iha (level + 1)).bind fun given =>
        (tells_cardArgument name given).bind fun c => tells_applyCard m zone c name.pos
    | pile m => exact tells_noOverload name 1 _

theorem applyBinary_quiet (op : BinaryOp) (operator : Token) (a b : Value) (s : Session χ) :
    applyBinary op operator a b s = ⟨(applyBinary op operator a b s).verdict, s, []⟩ := by
  simp only [applyBinary, getContext_bind]
  cases op.apply (ScriptContext.cards? s.context) a b <;> rfl

theorem binary_of_left_done {limit : Option Nat} {level : Nat} {left : Expr} {s t : Session χ}
    {a : Value} {events : List Event}
    (done : evaluate limit (level + 1) left s = ⟨.done a, t, events⟩) (op : BinaryOp)
    (operator : Token) (right : Expr) :
    ∃ verdict, evaluate limit level (.binary op operator left right) s =
      ⟨verdict, (evaluate limit (level + 1) right t).session,
        events ++ (evaluate limit (level + 1) right t).events⟩ := by
  rw [evaluate, checkLevel_of_done done, pure_bind, bind_of_done done]
  rcases run : evaluate limit (level + 1) right t with ⟨verdict, u, later⟩
  cases verdict with
  | done b =>
    rw [bind_of_done run, applyBinary_quiet]
    exact ⟨_, by rw [List.append_nil]⟩
  | failed err =>
    rw [bind_of_failed run]
    exact ⟨_, rfl⟩
  | refused r =>
    rw [bind_of_refused run]
    exact ⟨_, rfl⟩

def TakesArgument (limit : Option Nat) (level : Nat) (receiver : Expr) (method : ListMethod)
    (name : Token) (s : Session χ) : Prop :=
  method.takesCard = true ∧ ∃ v t events zone,
    evaluate limit (level + 1) receiver s = ⟨.done v, t, events⟩ ∧
      (receiverOf name v t).verdict = .done zone

theorem callWith_of_not_taken {limit : Option Nat} {level : Nat} {receiver : Expr}
    {method : ListMethod} {name : Token} {s : Session χ}
    (unwanted : ¬ TakesArgument limit level receiver method name s) (arg other : Expr) :
    evaluate limit level (.callWith receiver method name arg) s =
      evaluate limit level (.callWith receiver method name other) s := by
  rw [evaluate, evaluate]
  refine bind_congr_of_done fun _ u _ entered => ?_
  have same : u = s := by
    rw [← (readOnly_checkLevel limit level _ s).1, entered]
  subst same
  refine bind_congr_of_done fun v t events done => bind_congr_of_done fun zone u later known => ?_
  cases method with
  | pile m => rfl
  | card m => exact absurd ⟨rfl, v, t, events, zone, done, by rw [known]⟩ unwanted

end Run

open Run

variable {χ : Type} [ScriptContext χ]

/-- The log of a run tells the calls of the expression in order, each once, up to a failure. Both
operands of every operator are run, and the argument of a call that is not to take it is not. -/
theorem calls_run_once_in_order (limit : Option Nat) (level : Nat) (e : Expr) (s : Session χ) :
    (evaluate limit level e s).Tells e.calls ∧
    (∀ op operator left right, e = .binary op operator left right → ∀ a t events,
      evaluate limit (level + 1) left s = ⟨.done a, t, events⟩ →
      ∃ verdict, evaluate limit level e s =
        ⟨verdict, (evaluate limit (level + 1) right t).session,
          events ++ (evaluate limit (level + 1) right t).events⟩) ∧
    (∀ receiver method name arg, e = .callWith receiver method name arg →
      ¬ TakesArgument limit level receiver method name s → ∀ other,
      evaluate limit level e s =
        evaluate limit level (.callWith receiver method name other) s) := by
  refine ⟨evaluate_tells limit level e s, ?_, ?_⟩
  · rintro op operator left right rfl a t events done
    exact binary_of_left_done done op operator right
  · rintro receiver method name arg rfl unwanted other
    exact callWith_of_not_taken unwanted arg other

theorem calls_run_once_in_order_or :
    let deck := MatchState.handleOf .deck ⟨0⟩
    let hand := MatchState.handleOf .hand ⟨0⟩
    let dealt : MatchState :=
      ⟨1, ⟨0⟩, (MatchState.layout 1).setCards deck [⟨1⟩, ⟨2⟩], ∅, .ofSeed 0, ⟨3⟩⟩
    let pop := Expr.ofCall (.ofZone .deck) (.pile .pop)
    let push := Expr.ofCallWith (.ofZone .hand) (.card .push) pop
    let either := Expr.ofBinary .or push pop
    let stray := Expr.ofCallWith .ofTrigger (.card .push) pop
    let s : Session MatchState := ⟨.empty, dealt⟩
    let pushed := evaluate (some 9) 1 push s
    let popped := evaluate (some 9) 1 pop pushed.session
    either.calls = [.pile .pop, .card .push, .pile .pop] ∧
      (evaluate (some 9) 0 either s).Tells either.calls ∧
      pushed.events = [.changed deck (.popped (some ⟨1⟩)), .changed hand (.pushed ⟨1⟩)] ∧
      (∃ verdict, evaluate (some 9) 0 either s =
        ⟨verdict, popped.session, pushed.events ++ popped.events⟩) ∧
      (evaluate (some 9) 0 either s).verdict = .failed ⟨.operands .boolean, .zero⟩ ∧
      evaluate (some 9) 0 stray s =
        evaluate (some 9) 0 (.ofCallWith .ofTrigger (.card .push) (.ofVar "x")) s ∧
      (evaluate (some 9) 0 stray s).events = [.receiverRejected "Push" .number] := by
  intro deck hand dealt pop push either stray s pushed popped
  obtain ⟨told, both, -⟩ := calls_run_once_in_order (some 9) 0 either s
  have left : evaluate (some 9) 1 push s =
      ⟨.done (.cardList hand), pushed.session, pushed.events⟩ := rfl
  have unwanted : ¬ TakesArgument (some 9) 0 .ofTrigger (.card .push) (.synthetic "Push") s := by
    rintro ⟨-, v, t, events, zone, done, known⟩
    cases done
    cases known
  refine ⟨rfl, told, rfl, both _ _ _ _ rfl _ _ _ left, rfl, ?_, rfl⟩
  exact (calls_run_once_in_order (some 9) 0 stray s).2.2 _ _ _ _ rfl unwanted _

end CardEffects
