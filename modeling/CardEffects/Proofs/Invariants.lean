import CardEffects.Proofs.Runs

/-!
# Invariants of scripts

What a script keeps, whatever it is. An invariant is a property of sessions with one of values; it
has to be shown of the variables and the match only, since the rest of the language makes nothing
but values that name nothing of the match.
-/

namespace CardEffects

def Value.isPlain : Value → Bool
  | number _ | text _ | boolean _ | null => true
  | card _ | cardList _ => false

def Cause.isOrdinary : Cause → Bool
  | unknownZone _ | tooDeep _ => false
  | _ => true

def PlainResult : Except Cause Value → Prop
  | .ok v => v.isPlain = true
  | .error cause => cause.isOrdinary = true

theorem numberLiteral_plain (lexeme : String) : PlainResult (numberLiteral lexeme) := by
  simp only [numberLiteral]
  cases Number.read? (Text.trimmed lexeme.toList) <;> rfl

theorem textLiteral_plain (lexeme : String) : PlainResult (.ok (textLiteral lexeme)) := rfl

theorem booleanLiteral_plain (lexeme : String) : PlainResult (booleanLiteral lexeme) := by
  simp only [booleanLiteral]
  split
  · rfl
  · split <;> rfl

theorem UnaryOp.apply_plain (op : UnaryOp) (v : Value) : PlainResult (op.apply v) := by
  cases op <;> cases v <;> rfl

theorem onBooleans_plain (f : Bool → Bool → Bool) (a b : Value) :
    PlainResult (onBooleans f a b) := by
  simp only [onBooleans]
  split <;> rfl

theorem onTexts_plain (f : String → String → String) (a b : Value) :
    PlainResult (onTexts f a b) := by
  simp only [onTexts]
  split <;> rfl

theorem comparing_plain (f : Float → Float → Bool) (a b : Value) :
    PlainResult (comparing f a b) := by
  simp only [comparing]
  split <;> rfl

theorem onNumbers_plain (f : Float → Float → Float) (a b : Value) :
    PlainResult (onNumbers f a b) := by
  simp only [onNumbers]
  split <;> rfl

theorem Value.equal_unknown {cards? : ZoneHandle → Option (List CardId)} {a b : Value}
    {cause : Cause} (h : Value.equal cards? a b = .error cause) :
    ∃ zone, cause = .unknownZone zone ∧ cards? zone = none ∧
      (a = .cardList zone ∨ b = .cardList zone) := by
  simp only [Value.equal] at h
  split at h
  · cases h
  · rename_i y z
    simp only [knownCards] at h
    cases left : cards? y with
    | none =>
      simp only [left, bind, Except.bind, Except.error.injEq] at h
      exact ⟨y, h.symm, left, .inl rfl⟩
    | some cards =>
      cases right : cards? z with
      | none =>
        simp only [left, right, bind, Except.bind, Except.error.injEq] at h
        exact ⟨z, h.symm, right, .inr rfl⟩
      | some cards' =>
        simp only [left, right, bind, Except.bind, pure, Except.pure] at h
        cases h
  · cases h

theorem BinaryOp.apply_plain_or_unknown (cards? : ZoneHandle → Option (List CardId)) (op : BinaryOp)
    (a b : Value) :
    PlainResult (op.apply cards? a b) ∨ ∃ zone, op.apply cards? a b = .error (.unknownZone zone) ∧
      cards? zone = none ∧ (a = .cardList zone ∨ b = .cardList zone) := by
  have compared (f : Bool → Value) (plain : ∀ same, (f same).isPlain = true) :
      PlainResult ((Value.equal cards? a b).map f) ∨
        ∃ zone, (Value.equal cards? a b).map f = .error (.unknownZone zone) ∧
          cards? zone = none ∧ (a = .cardList zone ∨ b = .cardList zone) := by
    cases result : Value.equal cards? a b with
    | ok same => exact .inl (plain same)
    | error cause =>
      obtain ⟨zone, rfl, unknown, operand⟩ := Value.equal_unknown result
      exact .inr ⟨zone, rfl, unknown, operand⟩
  cases op with
  | and => exact .inl (onBooleans_plain _ a b)
  | or => exact .inl (onBooleans_plain _ a b)
  | equal => exact compared Value.boolean fun _ => rfl
  | notEqual => exact compared (fun same => .boolean !same) fun _ => rfl
  | concat => exact .inl (onTexts_plain _ a b)
  | concatSpaced => exact .inl (onTexts_plain _ a b)
  | greater => exact .inl (comparing_plain _ a b)
  | greaterEqual => exact .inl (comparing_plain _ a b)
  | less => exact .inl (comparing_plain _ a b)
  | lessEqual => exact .inl (comparing_plain _ a b)
  | add => exact .inl (onNumbers_plain _ a b)
  | subtract => exact .inl (onNumbers_plain _ a b)
  | multiply => exact .inl (onNumbers_plain _ a b)
  | divide => exact .inl (onNumbers_plain _ a b)
  | power => exact .inl (onNumbers_plain _ a b)

namespace Run

variable {χ α : Type} [ScriptContext χ]

def MayAskFor (s : Session χ) (p : PlayerId) : Prop :=
  p = ScriptContext.activePlayer s.context ∨
    ∃ number, ScriptContext.player? s.context number = some p

/-- What `I` and `V` must have so that scripts keep them and fail only with `B`: values that name
nothing of the match have `V`, the variables and the match give and take values with `V`, and its
methods keep `I`. -/
structure IsScriptInvariant (I : Session χ → Prop) (V : Value → Prop)
    (B : Option RuntimeError → Prop) :
    Prop where
  plain {v : Value} : v.isPlain = true → V v
  ordinary {cause : Cause} (pos : SourcePos) : cause.isOrdinary = true → B (some ⟨cause, pos⟩)
  bound {s : Session χ} {name : String} {v : Value} : I s → s.env.lookup? name = some v → V v
  assigned {s : Session χ} (name : String) {v : Value} :
    I s → V v → I { s with env := s.env.assign name v }
  zone {s : Session χ} {kind : ZoneKind} {p : PlayerId} {zone : ZoneHandle} : I s → MayAskFor s p →
    ScriptContext.zone s.context kind p = .ok zone → V (.cardList zone)
  refused {s : Session χ} {kind : ZoneKind} {p : PlayerId} {r : Refusal} : I s → MayAskFor s p →
    ScriptContext.zone s.context kind p = .error r → B none
  unknown {s : Session χ} {zone : ZoneHandle} (pos : SourcePos) : I s → V (.cardList zone) →
    ScriptContext.cards? s.context zone = none → B (some ⟨.unknownZone zone, pos⟩)
  card (m : CardMethod) {zone : ZoneHandle} {c : CardId} (pos : SourcePos) :
    V (.cardList zone) → V (.card c) → (applyCard m zone c pos).Within I B V
  pile (m : PileMethod) {zone : ZoneHandle} (pos : SourcePos) :
    V (.cardList zone) → (applyPile m zone pos).Within I B V

namespace IsScriptInvariant

variable {I : Session χ → Prop} {V : Value → Prop} {B : Option RuntimeError → Prop}
  (h : IsScriptInvariant I V B)
include h

theorem pure_plain {v : Value} (plain : v.isPlain = true) :
    (pure v : Run χ RuntimeError Value).Within I B V := fun _ hs => ⟨h.plain plain, hs⟩

theorem fail_ordinary {cause : Cause} (pos : SourcePos) (ordinary : cause.isOrdinary = true)
    (W : α → Prop) : (fail ⟨cause, pos⟩ : Run χ RuntimeError α).Within I B W :=
  fun _ hs => ⟨h.ordinary pos ordinary, hs⟩

theorem located_plain {r : Except Cause Value} (plain : PlainResult r) (pos : SourcePos) :
    (located pos r).Within I B V := by
  cases r with
  | ok v => exact h.pure_plain plain
  | error cause => exact h.fail_ordinary pos plain V

theorem literal_plain {read : String → Except Cause Value}
    (plain : ∀ lexeme, PlainResult (read lexeme)) (token : Option Token) :
    (literal token read).Within I B V := by
  cases token with
  | none => exact h.pure_plain rfl
  | some token => exact h.located_plain (plain token.lexeme) token.pos

theorem variableOf (name : Token) : (variableOf name).Within I B V := by
  refine (readOnly_variableOf name).within fun s hs => ?_
  simp only [Run.variableOf, getEnv_bind]
  cases found : s.env.lookup? name.lexeme with
  | some v => exact h.bound hs found
  | none => exact h.ordinary name.pos rfl

theorem assignTo (name : Token) {v : Value} (hv : V v) : (assignTo name v).Within I B V := by
  intro s hs
  by_cases null : v.isNull
  · simp only [Run.assignTo, null]
    exact ⟨hv, hs⟩
  · simp only [Run.assignTo, null]
    exact ⟨hv, h.assigned name.lexeme hs hv⟩

theorem stepOn (op : StepOp) (name operator : Token) : (stepOn op name operator).Within I B V := by
  refine (h.variableOf name).bind fun v _ => ?_
  cases v with
  | number old => exact fun s hs => ⟨h.plain rfl, h.assigned name.lexeme hs (h.plain rfl)⟩
  | _ => exact h.fail_ordinary operator.pos rfl V

theorem zoneOf {s : Session χ} (hs : I s) (kind : ZoneKind) {p : PlayerId} (hp : MayAskFor s p) :
    ((do return .cardList (← ofContext (ScriptContext.zone s.context kind p)) :
      Run χ RuntimeError Value) s).verdict.Meets V B := by
  cases found : ScriptContext.zone s.context kind p with
  | ok zone => exact h.zone hs hp found
  | error r => exact h.refused hs hp found

theorem activeZone (kind : ZoneKind) : (activeZone kind).Within I B V := by
  refine (readOnly_activeZone kind).within fun s hs => ?_
  exact h.zoneOf hs kind (.inl rfl)

theorem numberedZone (kind : ZoneKind) (access : Token) (v : Value) :
    (numberedZone kind access v).Within I B V := by
  refine (readOnly_numberedZone kind access v).within fun s hs => ?_
  cases v with
  | number x =>
    simp only [Run.numberedZone, getContext_bind]
    cases seated : ScriptContext.player? s.context (Number.toInt64 x) with
    | some p => exact h.zoneOf hs kind (.inr ⟨_, seated⟩)
    | none => exact h.ordinary access.pos rfl
  | _ => exact h.ordinary access.pos rfl

theorem applyBinary (op : BinaryOp) (operator : Token) {a b : Value} (ha : V a) (hb : V b) :
    (applyBinary op operator a b).Within I B V := by
  intro s hs
  simp only [Run.applyBinary, getContext_bind]
  rcases op.apply_plain_or_unknown (ScriptContext.cards? s.context) a b with
    plain | ⟨zone, failed, unknown, operand⟩
  · exact h.located_plain plain operator.pos s hs
  · have list : V (.cardList zone) := by
      rcases operand with rfl | rfl
      · exact ha
      · exact hb
    rw [failed]
    exact ⟨h.unknown operator.pos hs list unknown, hs⟩

theorem receiverOf (name : Token) {v : Value} (hv : V v) :
    (receiverOf name v).Within I B fun zone => V (.cardList zone) := by
  refine (readOnly_receiverOf name v).within fun s hs => ?_
  cases v with
  | cardList zone =>
    simp only [Run.receiverOf, cardsOf, bind_bind, getContext_bind]
    cases known : ScriptContext.cards? s.context zone with
    | some cards => exact hv
    | none => exact h.unknown name.pos hs hv known
  | _ => exact h.ordinary name.pos rfl

theorem cardArgument (name : Token) {v : Value} (hv : V v) :
    (cardArgument name v).Within I B fun c => V (.card c) := by
  refine (readOnly_cardArgument name v).within fun s hs => ?_
  cases v with
  | card c => exact hv
  | _ => exact h.ordinary name.pos rfl

theorem noOverload (name : Token) (given : Nat) : (noOverload name given).Within I B V :=
  h.fail_ordinary name.pos rfl V

theorem callOn (method : ListMethod) {zone : ZoneHandle} (name : Token) (hz : V (.cardList zone)) :
    (callOn method zone name).Within I B V := by
  cases method with
  | pile m => exact h.pile m name.pos hz
  | card m => exact h.noOverload name 0

theorem evaluate {limit : Option Nat} (deep : ∀ m pos, limit = some m → B (some ⟨.tooDeep m, pos⟩))
    (level : Nat) (e : Expr) : (evaluate limit level e).Within I B V := by
  have node (level : Nat) (pos : SourcePos) {x : Run χ RuntimeError Value} (hx : x.Within I B V) :
      (checkLevel limit level pos >>= fun _ => x).Within I B V := by
    refine Within.bind (W := fun _ => True) ?_ fun _ _ => hx
    refine (readOnly_checkLevel limit level pos).within fun s hs => ?_
    cases bounded : limit with
    | none => trivial
    | some m =>
      by_cases below : m ≤ level
      · simp only [checkLevel, below, if_true]
        exact deep m pos bounded
      · simp only [checkLevel, below, if_false]
        trivial
  induction e generalizing level with
  | number token => exact node _ _ (h.literal_plain numberLiteral_plain token)
  | text token => exact node _ _ (h.literal_plain textLiteral_plain token)
  | boolean token => exact node _ _ (h.literal_plain booleanLiteral_plain token)
  | var name => exact node _ _ (h.variableOf name)
  | group inner ih => exact node _ _ (ih (level + 1))
  | unary op operator operand ih =>
    exact node _ _ ((ih (level + 1)).bind fun v _ =>
      h.located_plain (op.apply_plain v) operator.pos)
  | binary op operator left right ihl ihr =>
    exact node _ _ ((ihl (level + 1)).bind fun a ha =>
      (ihr (level + 1)).bind fun b hb => h.applyBinary op operator ha hb)
  | assign name value ih =>
    exact node _ _ ((ih (level + 1)).bind fun v hv => h.assignTo name hv)
  | step op name operator => exact node _ _ (h.stepOn op name operator)
  | trigger token => exact node _ _ (readOnly_triggerPlayer.within fun _ _ => h.plain rfl)
  | zone kind access => exact node _ _ (h.activeZone kind)
  | zoneOf kind player access ih =>
    exact node _ _ ((ih (level + 1)).bind fun v _ => h.numberedZone kind access v)
  | call receiver method name ih =>
    exact node _ _ ((ih (level + 1)).bind fun v hv =>
      (h.receiverOf name hv).bind fun zone hz => h.callOn method name hz)
  | callWith receiver method name arg ihr iha =>
    refine node _ _ ((ihr (level + 1)).bind fun v hv =>
      (h.receiverOf name hv).bind fun zone hz => ?_)
    cases method with
    | card m =>
      exact (iha (level + 1)).bind fun given hg =>
        (h.cardArgument name hg).bind fun c hc => h.card m name.pos hz hc
    | pile m => exact h.noOverload name 1

theorem run (deep : ∀ m pos, B (some ⟨.tooDeep m, pos⟩)) (config : EvalConfig) (e : Expr) :
    (config.run e).Within I B V := by
  rw [EvalConfig.run_eq]
  exact h.evaluate (fun m pos _ => deep m pos) 0 e

theorem invoke (deep : ∀ m pos, B (some ⟨.tooDeep m, pos⟩)) {B' : Option EffectError → Prop}
    (unregistered : ∀ effect, B' (some (.unknown effect)))
    (aborted : ∀ effect e, B e → B' (e.map (.aborted effect))) (r : EffectRegistry) (name : String)
    (vars : Environment) (context : χ) (hs : I ⟨vars, context⟩) :
    (r.invoke name vars context).verdict.Meets
      (fun v => V v ∧ I (r.invoke name vars context).session)
      fun e => B' e ∧ I (r.invoke name vars context).session := by
  cases found : r.get? name with
  | none =>
    simp only [EffectRegistry.invoke, found]
    exact ⟨unregistered name, hs⟩
  | some script =>
    exact EffectRegistry.invoke_ensures (F := fun e s => B' e ∧ I s) found
      (fun e _ => h.run deep r.config e) (fun _ _ hs => hs.2)
      (fun e _ hs => ⟨aborted name e hs.1, hs.2⟩) vars context ⟨h.plain rfl, hs⟩

end IsScriptInvariant

end Run

end CardEffects
