import CardEffects.Proofs.Causes

/-!
# Rewording

A node is run for what it is, not for how it was written or where. The places of the tokens come
back in errors only, the words for methods in what is said about a call that was turned down, and
the words for operators, zones and the player on turn never.
-/

namespace CardEffects

def Token.reworded (f : SourcePos → SourcePos) (g : String → String) (t : Token) : Token :=
  ⟨g t.lexeme, f t.pos⟩

theorem Token.pos_reworded (f : SourcePos → SourcePos) (g : String → String) (t : Token) :
    (t.reworded f g).pos = f t.pos := rfl

def Cause.requoted (g : String → String) : Cause → Cause
  | .noOverload method given => .noOverload (g method) given
  | .receiverNotAList method => .receiverNotAList (g method)
  | cause => cause

def RuntimeError.reworded (f : SourcePos → SourcePos) (g : String → String) (err : RuntimeError) :
    RuntimeError :=
  ⟨err.cause.requoted g, f err.pos⟩

def RuntimeError.moved (f : SourcePos → SourcePos) (err : RuntimeError) : RuntimeError :=
  ⟨err.cause, f err.pos⟩

def Event.requoted (g : String → String) : Event → Event
  | .receiverRejected method found => .receiverRejected (g method) found
  | event => event

def blank (_ : String) : String := ""

theorem Cause.requoted_id (cause : Cause) : cause.requoted id = cause := by cases cause <;> rfl

theorem RuntimeError.reworded_id (f : SourcePos → SourcePos) : reworded f id = moved f := by
  funext err
  rw [reworded, Cause.requoted_id, moved]

theorem RuntimeError.moved_id : moved id = id := rfl

theorem Event.requoted_id : requoted id = id := by
  funext event
  cases event <;> rfl

/-- The outcome with other places in its error and other words for the methods that it quotes. -/
def Outcome.reworded {χ α : Type} (f : SourcePos → SourcePos) (g : String → String)
    (o : Outcome χ RuntimeError α) : Outcome χ RuntimeError α :=
  ⟨o.verdict.mapError (.reworded f g), o.session, o.events.map (.requoted g)⟩

namespace Expr

variable (f f' : SourcePos → SourcePos) (g g' h h' : String → String)

/-- The expression at other places, with other words for methods and for signs, which are operators,
zones and the player on turn. -/
def reworded : Expr → Expr
  | number literal => number (literal.map (·.reworded f id))
  | text literal => text (literal.map (·.reworded f id))
  | boolean literal => boolean (literal.map (·.reworded f id))
  | var name => var (name.reworded f id)
  | group inner => group inner.reworded
  | unary op operator operand => unary op (operator.reworded f h) operand.reworded
  | binary op operator left right => binary op (operator.reworded f h) left.reworded right.reworded
  | assign name value => assign (name.reworded f id) value.reworded
  | step op name operator => step op (name.reworded f id) (operator.reworded f h)
  | trigger token => trigger (token.reworded f h)
  | zone kind access => zone kind (access.reworded f h)
  | zoneOf kind player access => zoneOf kind player.reworded (access.reworded f h)
  | call receiver method name => call receiver.reworded method (name.reworded f g)
  | callWith receiver method name arg =>
    callWith receiver.reworded method (name.reworded f g) arg.reworded

def moved (e : Expr) : Expr := e.reworded f id id

def unspelled (e : Expr) : Expr := e.reworded id id blank

/-- The expression without these and without its words for methods. -/
def unnamed (e : Expr) : Expr := e.reworded id blank blank

theorem reworded_reworded (e : Expr) :
    (e.reworded f g h).reworded f' g' h' = e.reworded (f' ∘ f) (g' ∘ g) (h' ∘ h) := by
  have literals (literal : Option Token) : (literal.map (·.reworded f id)).map (·.reworded f' id)
      = literal.map (·.reworded (f' ∘ f) id) := Option.map_map ..
  induction e with
  | number | text | boolean => simp only [reworded, literals]
  | var | step | trigger | zone => rfl
  | group _ ih | unary _ _ _ ih | assign _ _ ih | zoneOf _ _ _ ih | call _ _ _ ih =>
    simp only [reworded, ih, Token.reworded, Function.comp, id]
  | binary _ _ _ _ ihl ihr | callWith _ _ _ _ ihl ihr =>
    simp only [reworded, ihl, ihr, Token.reworded, Function.comp]

theorem pos_reworded (fixed : f .zero = .zero) (e : Expr) : (e.reworded f g h).pos = f e.pos := by
  induction e with
  | number literal | text literal | boolean literal =>
    cases literal with
    | none => exact fixed.symm
    | some token => rfl
  | group inner ih => exact ih
  | _ => rfl

end Expr

namespace Run

section

variable {χ α β : Type} (f : SourcePos → SourcePos) (g : String → String) {h : String → String}

def reworded (x : Run χ RuntimeError α) : Run χ RuntimeError α := fun s => (x s).reworded f g

theorem reworded_eq (x : Run χ RuntimeError α) :
    x.reworded f g = (x.mapError (RuntimeError.reworded f g)).mapEvents (Event.requoted g) := rfl

theorem reworded_bind (x : Run χ RuntimeError α) (k : α → Run χ RuntimeError β) :
    (x >>= k).reworded f g = x.reworded f g >>= fun a => (k a).reworded f g := by
  rw [reworded_eq, mapError_bind, mapEvents_bind]
  rfl

theorem checkLevel_reworded (limit : Option Nat) (level : Nat) (pos : SourcePos) :
    checkLevel (χ := χ) limit level (f pos) = (checkLevel limit level pos).reworded f g := by
  cases limit with
  | none => rfl
  | some limit =>
    by_cases deep : limit ≤ level
    · simp only [checkLevel, if_pos deep]
      rfl
    · simp only [checkLevel, if_neg deep]
      rfl

theorem entered_reworded {limit : Option Nat} {level : Nat} {pos pos' : SourcePos}
    {x y : Run χ RuntimeError α} (place : pos' = f pos) (body : y = x.reworded f g) :
    (checkLevel limit level pos' >>= fun _ => y) =
      (checkLevel limit level pos >>= fun _ => x).reworded f g := by
  rw [place, body, reworded_bind, checkLevel_reworded f g]

theorem located_reworded {r : Except Cause α} (pos : SourcePos)
    (plain : ∀ cause, r = .error cause → cause.requoted g = cause) :
    located (χ := χ) (f pos) r = (located pos r).reworded f g := by
  cases r with
  | ok a => rfl
  | error cause =>
    show fail ⟨cause, f pos⟩ = (fail ⟨cause.requoted g, f pos⟩ : Run χ RuntimeError α)
    rw [plain cause rfl]

theorem literal_reworded (token : Option Token) {read : String → Except Cause Value}
    (plain : ∀ lexeme cause, read lexeme = .error cause → cause.requoted g = cause) :
    literal (χ := χ) (token.map (·.reworded f id)) read = (literal token read).reworded f g := by
  cases token with
  | none => rfl
  | some token => exact located_reworded f g token.pos (plain token.lexeme)

theorem variableOf_reworded (name : Token) :
    variableOf (χ := χ) (name.reworded f id) = (variableOf name).reworded f g := by
  funext s
  simp only [variableOf, reworded, getEnv_bind, Token.reworded, id]
  cases s.env.lookup? name.lexeme <;> rfl

theorem assignTo_reworded (name : Token) (v : Value) :
    assignTo (χ := χ) (name.reworded f id) v = (assignTo name v).reworded f g := by
  simp only [assignTo, Token.reworded, id]
  cases v.isNull <;> rfl

theorem stepOn_reworded (op : StepOp) (name operator : Token) :
    stepOn (χ := χ) op (name.reworded f id) (operator.reworded f h)
      = (stepOn op name operator).reworded f g := by
  rw [stepOn, stepOn, reworded_bind, variableOf_reworded f g]
  refine congrArg (_ >>= ·) (funext fun v => ?_)
  cases v <;> rfl

theorem cardArgument_reworded (name : Token) (arg : Value) :
    cardArgument (χ := χ) (name.reworded f g) arg = (cardArgument name arg).reworded f g := by
  cases arg <;> rfl

theorem noOverload_reworded (name : Token) (given : Nat) :
    noOverload (χ := χ) (name.reworded f g) given = (noOverload name given).reworded f g := rfl

end

variable {χ : Type} [ScriptContext χ] (f : SourcePos → SourcePos) (g : String → String)
  {h : String → String}

theorem activeZone_reworded (kind : ZoneKind) :
    activeZone kind = (activeZone (χ := χ) kind).reworded f g := by
  funext s
  simp only [activeZone, reworded, getContext_bind]
  cases ScriptContext.zone s.context kind (ScriptContext.activePlayer s.context) <;> rfl

theorem numberedZone_reworded (kind : ZoneKind) (access : Token) (player : Value) :
    numberedZone (χ := χ) kind (access.reworded f h) player
      = (numberedZone kind access player).reworded f g := by
  cases player with
  | number x =>
    funext s
    simp only [numberedZone, reworded, getContext_bind, Token.reworded]
    cases ScriptContext.player? s.context (Number.toInt64 x) with
    | none => rfl
    | some p => dsimp only; cases ScriptContext.zone s.context kind p <;> rfl
  | _ => rfl

theorem applyBinary_reworded (op : BinaryOp) (operator : Token) (a b : Value) :
    applyBinary (χ := χ) op (operator.reworded f h) a b =
      (applyBinary op operator a b).reworded f g := by
  rw [applyBinary, applyBinary, reworded_bind]
  refine congrArg (getContext >>= ·) (funext fun context => ?_)
  refine located_reworded f g operator.pos fun cause failed => ?_
  obtain ⟨_, _, rfl, _⟩ | ⟨_, _, rfl, _⟩ := BinaryOp.apply_eq_error_iff.mp failed <;> rfl

theorem cardsOf_reworded (zone : ZoneHandle) (pos : SourcePos) :
    cardsOf (χ := χ) zone (f pos) = (cardsOf zone pos).reworded f g := by
  funext s
  simp only [cardsOf, reworded, getContext_bind]
  cases ScriptContext.cards? s.context zone <;> rfl

theorem editOf_reworded (zone : ZoneHandle) (pos : SourcePos) :
    editOf (χ := χ) zone (f pos) = (editOf zone pos).reworded f g := by
  funext s
  simp only [editOf, reworded, getContext_bind]
  cases ScriptContext.edit? s.context zone <;> rfl

theorem receiverOf_reworded (name : Token) (receiver : Value) :
    receiverOf (χ := χ) (name.reworded f g) receiver = (receiverOf name receiver).reworded f g := by
  cases receiver with
  | cardList zone =>
    simp only [receiverOf, reworded_bind, Token.reworded, cardsOf_reworded f g]
    rfl
  | _ => rfl

theorem applyCard_reworded (m : CardMethod) (zone : ZoneHandle) (c : CardId) (pos : SourcePos) :
    applyCard (χ := χ) m zone c (f pos) = (applyCard m zone c pos).reworded f g := by
  rw [applyCard, applyCard, reworded_bind, editOf_reworded f g]
  rfl

theorem applyPile_reworded (m : PileMethod) (zone : ZoneHandle) (pos : SourcePos) :
    applyPile (χ := χ) m zone (f pos) = (applyPile m zone pos).reworded f g := by
  cases m with
  | pop =>
    simp only [applyPile, pop, reworded_bind, editOf_reworded f g]
    rfl
  | shuffle =>
    simp only [applyPile, shuffle, reworded_bind, cardsOf_reworded f g, editOf_reworded f g]
    rfl

theorem callOn_reworded (method : ListMethod) (zone : ZoneHandle) (name : Token) :
    callOn (χ := χ) method zone (name.reworded f g) = (callOn method zone name).reworded f g := by
  cases method with
  | card m => exact noOverload_reworded f g name 0
  | pile m => exact applyPile_reworded f g m zone name.pos

theorem evaluate_reworded (h : String → String) (fixed : f .zero = .zero) (limit : Option Nat)
    (level : Nat) (e : Expr) :
    evaluate (χ := χ) limit level (e.reworded f g h) = (evaluate limit level e).reworded f g := by
  -- a literal that is missing has no token to move: its place is the fixed one
  have place := Expr.pos_reworded f g h fixed
  induction e generalizing level with
  | number token =>
    refine entered_reworded f g (place (.number token))
      (literal_reworded f g token fun _ _ failed => ?_)
    rw [(numberLiteral_eq_error_iff.mp failed).1]
    rfl
  | text token =>
    exact entered_reworded f g (place (.text token)) (literal_reworded f g token nofun)
  | boolean token =>
    refine entered_reworded f g (place (.boolean token))
      (literal_reworded f g token fun _ _ failed => ?_)
    rw [(booleanLiteral_eq_error_iff.mp failed).1]
    rfl
  | var name => exact entered_reworded f g (place (.var name)) (variableOf_reworded f g name)
  | group inner ih => exact entered_reworded f g (place (.group inner)) (ih (level + 1))
  | unary op operator operand ih =>
    refine entered_reworded f g (place (.unary op operator operand)) ?_
    rw [reworded_bind, ih]
    refine congrArg (_ >>= ·)
      (funext fun v => located_reworded f g operator.pos fun cause failed => ?_)
    rw [(UnaryOp.apply_eq_error_iff.mp failed).1]
    rfl
  | binary op operator left right ihl ihr =>
    refine entered_reworded f g (place (.binary op operator left right)) ?_
    simp only [reworded_bind, ihl, ihr, applyBinary_reworded f g]
  | assign name value ih =>
    refine entered_reworded f g (place (.assign name value)) ?_
    simp only [reworded_bind, ih, assignTo_reworded f g]
  | step op name operator =>
    exact entered_reworded f g (place (.step op name operator))
      (stepOn_reworded f g op name operator)
  | trigger token => exact entered_reworded f g (place (.trigger token)) rfl
  | zone kind access =>
    exact entered_reworded f g (place (.zone kind access)) (activeZone_reworded f g kind)
  | zoneOf kind player access ih =>
    refine entered_reworded f g (place (.zoneOf kind player access)) ?_
    simp only [reworded_bind, ih, numberedZone_reworded f g]
  | call receiver method name ih =>
    refine entered_reworded f g (place (.call receiver method name)) ?_
    simp only [reworded_bind, ih, receiverOf_reworded, callOn_reworded]
  | callWith receiver method name arg ihr iha =>
    refine entered_reworded f g (place (.callWith receiver method name arg)) ?_
    cases method with
    | card m =>
      simp only [reworded_bind, ihr, iha, receiverOf_reworded, cardArgument_reworded,
        Token.pos_reworded, applyCard_reworded f g]
    | pile m =>
      simp only [reworded_bind, ihr, receiverOf_reworded, noOverload_reworded]

end Run

variable {χ : Type} [ScriptContext χ] {f : SourcePos → SourcePos} {g h : String → String}
  {e e' : Expr}

theorem run_reworded (fixed : f .zero = .zero) (config : EvalConfig) (e : Expr) :
    config.run (χ := χ) (e.reworded f g h) = (config.run e).reworded f g := by
  rw [EvalConfig.run_eq, EvalConfig.run_eq, Run.evaluate_reworded f g h fixed]

theorem outcome_of_reworded_eq (fixed : f .zero = .zero)
    (same : e'.reworded id g h = e.reworded f g h) (config : EvalConfig) (s : Session χ) :
    (config.run e' s).reworded id g = (config.run e s).reworded f g := by
  have runs : (config.run (χ := χ) e').reworded id g = (config.run e).reworded f g := by
    rw [← run_reworded (h := h) rfl, ← run_reworded (h := h) fixed, same]
  exact congrFun runs s

/-- Places and spellings are immaterial. An expression whose tokens stand elsewhere, with any words
for operators, zones and the player on turn, ends with the same value in the same session after the
same events, or with the same error at the new place. With any words for methods as well, nothing
else changes but the method quoted in the error or in the event about its receiver; it is the new
one if words are replaced one by one. -/
theorem places_and_spellings_are_immaterial (fixed : f .zero = .zero) (config : EvalConfig)
    (s : Session χ) :
    let o := config.run e s
    let o' := config.run e' s
    (e'.unspelled = (e.moved f).unspelled →
      o'.verdict = o.verdict.mapError (.moved f) ∧ o'.session = o.session ∧ o'.events = o.events) ∧
    (e'.unnamed = (e.moved f).unnamed → o'.reworded id blank = o.reworded f blank) ∧
    (e' = e.reworded f g h → o' = o.reworded f g) := by
  intro o o'
  refine ⟨fun same => ?signs, fun same => ?methods, fun same => ?renamed⟩
  case signs =>
    rw [Expr.unspelled, Expr.unspelled, Expr.moved, Expr.reworded_reworded] at same
    have outcomes : o'.reworded id id = o.reworded f id :=
      outcome_of_reworded_eq fixed same config s
    simp only [Outcome.reworded, RuntimeError.reworded_id, RuntimeError.moved_id,
      Verdict.mapError_id, Event.requoted_id, List.map_id] at outcomes
    injection outcomes with verdict session events
    exact ⟨verdict, session, events⟩
  case methods =>
    rw [Expr.unnamed, Expr.unnamed, Expr.moved, Expr.reworded_reworded] at same
    exact outcome_of_reworded_eq fixed same config s
  case renamed =>
    rw [show o' = config.run (e.reworded f g h) s by rw [← same], run_reworded fixed]
    rfl

theorem places_and_spellings_are_immaterial_below :
    let f : SourcePos → SourcePos := fun p => if p = .zero then p else ⟨p.line + 1, p.column⟩
    let deck := MatchState.handleOf .deck ⟨0⟩
    let dealt : MatchState := ⟨1, ⟨0⟩, (MatchState.layout 1).setCards deck [⟨1⟩], ∅, .ofSeed 0, ⟨2⟩⟩
    let s : Session MatchState := ⟨.empty, dealt⟩
    let drawn : Session MatchState := ⟨.empty, dealt.withCards deck []⟩
    let e := Expr.binary .concat ⟨"@", ⟨1, 12⟩⟩
      (.call (.zone .deck ⟨"Deck", ⟨1, 1⟩⟩) (.pile .pop) ⟨"Pop", ⟨1, 6⟩⟩)
      (.trigger ⟨"TriggerPlayer", ⟨1, 14⟩⟩)
    let e' := Expr.binary .concat ⟨"+", ⟨2, 12⟩⟩
      (.call (.zone .deck ⟨"Hand", ⟨2, 1⟩⟩) (.pile .pop) ⟨"Pop", ⟨2, 6⟩⟩)
      (.trigger ⟨"Trigger", ⟨2, 14⟩⟩)
    let call := Expr.call .ofTrigger (.pile .pop) ⟨"Pop", ⟨1, 15⟩⟩
    let call' := Expr.call .ofTrigger (.pile .pop) ⟨"Draw", ⟨2, 15⟩⟩
    let o := EvalConfig.default.run e s
    let o' := EvalConfig.default.run e' s
    let turned := EvalConfig.default.run call s
    let turned' := EvalConfig.default.run call' s
    f .zero = .zero ∧ e'.unspelled = (e.moved f).unspelled ∧
      o = ⟨.failed ⟨.operands .string, ⟨1, 12⟩⟩, drawn, [.changed deck (.popped (some ⟨1⟩))]⟩ ∧
      o'.verdict = .failed ⟨.operands .string, ⟨2, 12⟩⟩ ∧ o'.session = drawn ∧
      o'.events = o.events ∧
      call'.unnamed = (call.moved f).unnamed ∧
      turned = ⟨.failed ⟨.receiverNotAList "Pop", ⟨1, 15⟩⟩, s, [.receiverRejected "Pop" .number]⟩ ∧
      turned'.reworded id blank
        = ⟨.failed ⟨.receiverNotAList "", ⟨2, 15⟩⟩, s, [.receiverRejected "" .number]⟩ ∧
      turned' =
        ⟨.failed ⟨.receiverNotAList "Draw", ⟨2, 15⟩⟩, s, [.receiverRejected "Draw" .number]⟩ := by
  intro f deck dealt s drawn e e' call call' o o' turned turned'
  have fixed : f .zero = .zero := rfl
  have ran :
      o = ⟨.failed ⟨.operands .string, ⟨1, 12⟩⟩, drawn, [.changed deck (.popped (some ⟨1⟩))]⟩ := rfl
  have refused : turned =
      ⟨.failed ⟨.receiverNotAList "Pop", ⟨1, 15⟩⟩, s, [.receiverRejected "Pop" .number]⟩ := rfl
  obtain ⟨signs, -, -⟩ :=
    @places_and_spellings_are_immaterial MatchState _ f id id e e' fixed .default s
  obtain ⟨-, methods, renamed⟩ :=
    @places_and_spellings_are_immaterial MatchState _ f (fun _ => "Draw") id call call' fixed
      .default s
  obtain ⟨verdict, session, events⟩ := signs rfl
  have at_sign := congrArg (fun o => o.verdict.mapError (RuntimeError.moved f)) ran
  have unquoted := congrArg (Outcome.reworded f blank) refused
  have requoted := congrArg (Outcome.reworded f fun _ => "Draw") refused
  exact ⟨fixed, rfl, ran, verdict.trans at_sign, session.trans (congrArg Outcome.session ran),
    events, rfl, refused, (methods rfl).trans unquoted, (renamed rfl).trans requoted⟩

end CardEffects
