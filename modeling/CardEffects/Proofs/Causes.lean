import CardEffects.Proofs.FailedCalls

/-!
# Causes of failures

When an operation fails, and with which cause. Each operator but equality accepts operands of one
kind and fails on every other, with a cause that names this kind. Equality accepts everything but a
card list that is not known. A literal fails if its text cannot be read, and what a node asks of the
variables and of the match fails if they do not have it.
-/

namespace CardEffects

def OperandKind.kind : OperandKind → ValueKind
  | boolean => .boolean
  | string => .text
  | numeric => .number

def UnaryOp.accepts : UnaryOp → OperandKind
  | not => .boolean
  | negate => .numeric

def BinaryOp.accepts? : BinaryOp → Option OperandKind
  | and | or => some .boolean
  | equal | notEqual => none
  | concat | concatSpaced => some .string
  | greater | greaterEqual | less | lessEqual => some .numeric
  | add | subtract | multiply | divide | power => some .numeric

theorem UnaryOp.apply_eq_error_iff {op : UnaryOp} {v : Value} {cause : Cause} :
    op.apply v = .error cause ↔ cause = .operand op.accepts ∧ v.kind ≠ op.accepts.kind := by
  cases op <;> cases v <;> simp [apply, accepts, OperandKind.kind, Value.kind, eq_comm]

def Mismatched (kind : OperandKind) (a b : Value) : Prop := a.kind ≠ kind.kind ∨ b.kind ≠ kind.kind

theorem onBooleans_eq_error_iff {f : Bool → Bool → Bool} {a b : Value} {cause : Cause} :
    onBooleans f a b = .error cause ↔ cause = .operands .boolean ∧ Mismatched .boolean a b := by
  cases a <;> cases b <;> simp [onBooleans, Mismatched, OperandKind.kind, Value.kind, eq_comm]

theorem onTexts_eq_error_iff {f : String → String → String} {a b : Value} {cause : Cause} :
    onTexts f a b = .error cause ↔ cause = .operands .string ∧ Mismatched .string a b := by
  cases a <;> cases b <;> simp [onTexts, Mismatched, OperandKind.kind, Value.kind, eq_comm]

theorem comparing_eq_error_iff {f : Float → Float → Bool} {a b : Value} {cause : Cause} :
    comparing f a b = .error cause ↔ cause = .operands .numeric ∧ Mismatched .numeric a b := by
  cases a <;> cases b <;> simp [comparing, Mismatched, OperandKind.kind, Value.kind, eq_comm]

theorem onNumbers_eq_error_iff {f : Float → Float → Float} {a b : Value} {cause : Cause} :
    onNumbers f a b = .error cause ↔ cause = .operands .numeric ∧ Mismatched .numeric a b := by
  cases a <;> cases b <;> simp [onNumbers, Mismatched, OperandKind.kind, Value.kind, eq_comm]

def Unknown (cards? : ZoneHandle → Option (List CardId)) (zone : ZoneHandle) (a b : Value) : Prop :=
  ∃ y z, a = .cardList y ∧ b = .cardList z ∧
    (cards? y = none ∧ zone = y ∨ cards? y ≠ none ∧ cards? z = none ∧ zone = z)

theorem Value.equal_eq_error_iff {cards? : ZoneHandle → Option (List CardId)} {a b : Value}
    {cause : Cause} :
    Value.equal cards? a b = .error cause ↔
      ∃ zone, cause = .unknownZone zone ∧ Unknown cards? zone a b := by
  cases a with
  | cardList y =>
    cases b with
    | cardList z =>
      cases left : cards? y <;> cases right : cards? z <;>
        simp [equal, knownCards, Unknown, left, right, bind, Except.bind, pure, Except.pure,
          eq_comm]
    | _ => simp [equal, Unknown]
  | _ => cases b <;> simp [equal, Unknown]

theorem except_map_eq_error_iff {ε α β : Type} {f : α → β} {x : Except ε α} {e : ε} :
    x.map f = .error e ↔ x = .error e := by
  cases x <;> simp [Except.map]

theorem BinaryOp.apply_eq_error_iff {cards? : ZoneHandle → Option (List CardId)} {op : BinaryOp}
    {a b : Value} {cause : Cause} :
    op.apply cards? a b = .error cause ↔
      (∃ kind, op.accepts? = some kind ∧ cause = .operands kind ∧ Mismatched kind a b) ∨
      op.accepts? = none ∧ ∃ zone, cause = .unknownZone zone ∧ Unknown cards? zone a b := by
  cases op <;> simp [apply, accepts?, onBooleans_eq_error_iff, onTexts_eq_error_iff,
    comparing_eq_error_iff, onNumbers_eq_error_iff, except_map_eq_error_iff,
    Value.equal_eq_error_iff]

theorem numberLiteral_eq_error_iff {lexeme : String} {cause : Cause} :
    numberLiteral lexeme = .error cause ↔
      cause = .badNumber lexeme ∧ Number.read? (Text.trimmed lexeme.toList) = none := by
  cases h : Number.read? (Text.trimmed lexeme.toList) <;> simp [numberLiteral, h, eq_comm]

def namesBoolean (lexeme : String) : Bool :=
  let word := Text.trimmed lexeme.toList
  Text.sameIgnoringCase word "true".toList || Text.sameIgnoringCase word "false".toList

theorem booleanLiteral_eq_error_iff {lexeme : String} {cause : Cause} :
    booleanLiteral lexeme = .error cause ↔
      cause = .badBoolean lexeme ∧ namesBoolean lexeme = false := by
  simp only [booleanLiteral, namesBoolean]
  cases Text.sameIgnoringCase (Text.trimmed lexeme.toList) "true".toList <;>
    cases Text.sameIgnoringCase (Text.trimmed lexeme.toList) "false".toList <;> simp [eq_comm]

namespace Run

section

variable {χ ε α β : Type} {s : Session χ}

theorem bind_failed_iff {x : Run χ ε α} {f : α → Run χ ε β} {e : ε} :
    ((x >>= f) s).verdict = .failed e ↔ (x s).verdict = .failed e ∨
      ∃ a t events, x s = ⟨.done a, t, events⟩ ∧ (f a t).verdict = .failed e := by
  rcases run : x s with ⟨verdict, t, events⟩
  cases verdict with
  | done a =>
    rw [bind_of_done run]
    refine ⟨fun failed => .inr ⟨a, t, events, rfl, failed⟩, ?_⟩
    rintro (⟨⟨⟩⟩ | ⟨_, _, _, ⟨⟩, failed⟩)
    exact failed
  | failed e' => simp [bind_of_failed run]
  | refused r => simp [bind_of_refused run]

theorem bind_done_iff {x : Run χ ε α} {f : α → Run χ ε β} {b : β} :
    ((x >>= f) s).verdict = .done b ↔
      ∃ a t events, x s = ⟨.done a, t, events⟩ ∧ (f a t).verdict = .done b := by
  rcases run : x s with ⟨verdict, t, events⟩
  cases verdict with
  | done a =>
    rw [bind_of_done run]
    refine ⟨fun done => ⟨a, t, events, rfl, done⟩, ?_⟩
    rintro ⟨_, _, _, ⟨⟩, done⟩
    exact done
  | failed e' => simp [bind_of_failed run]
  | refused r => simp [bind_of_refused run]

theorem failed_of_done {x : Run χ ε α} {f : α → Run χ ε β} {t : Session χ} {a : α}
    {events : List Event} {e : ε} (done : x s = ⟨.done a, t, events⟩)
    (failed : (f a t).verdict = .failed e) :
    ((x >>= f) s).verdict = .failed e := bind_failed_iff.mpr (.inr ⟨a, t, events, done, failed⟩)

theorem checked_done {limit : Option Nat} {level : Nat} {pos : SourcePos} {x : Run χ RuntimeError α}
    {a : α} (done : ((checkLevel limit level pos >>= fun _ => x) s).verdict = .done a) :
    (x s).verdict = .done a := by
  obtain ⟨_, t, events, entered, finished⟩ := bind_done_iff.mp done
  have same := (readOnly_checkLevel limit level pos s).1
  rw [entered] at same
  cases same
  exact finished

variable {err : RuntimeError}

theorem located_failed_iff {pos : SourcePos} {r : Except Cause α} :
    (located pos r s).verdict = .failed err ↔ r = .error err.cause ∧ err.pos = pos := by
  obtain ⟨cause, place⟩ := err
  cases r <;> simp [located, pure_apply, fail, eq_comm]

theorem variableOf_failed_iff {name : Token} : (variableOf name s).verdict = .failed err ↔
    s.env.lookup? name.lexeme = none ∧ err = ⟨.undefined name.lexeme, name.pos⟩ := by
  simp only [variableOf, getEnv_bind]
  cases s.env.lookup? name.lexeme <;> simp [pure_apply, fail, eq_comm]

theorem variableOf_done_iff {name : Token} {v : Value} {t : Session χ} {events : List Event} :
    variableOf name s = ⟨.done v, t, events⟩ ↔
      s.env.lookup? name.lexeme = some v ∧ s = t ∧ [] = events := by
  simp only [variableOf, getEnv_bind]
  cases s.env.lookup? name.lexeme <;> simp [pure_apply, fail]

theorem assignTo_not_failed {name : Token} {v : Value} :
    (assignTo name v s).verdict ≠ .failed err := by
  by_cases null : v.isNull <;> simp only [assignTo, null] <;> rintro ⟨⟩

theorem stepOn_failed_iff {op : StepOp} {name operator : Token} :
    (stepOn op name operator s).verdict = .failed err ↔
      s.env.lookup? name.lexeme = none ∧ err = ⟨.undefined name.lexeme, name.pos⟩ ∨
      ∃ old, s.env.lookup? name.lexeme = some old ∧ old.kind ≠ .number ∧
        err = ⟨.operand .numeric, operator.pos⟩ := by
  simp only [stepOn, bind_failed_iff, variableOf_failed_iff, variableOf_done_iff]
  refine or_congr_right ⟨?_, ?_⟩
  · rintro ⟨old, _, _, ⟨found, rfl, rfl⟩, failed⟩
    cases old with
    | number x => cases failed
    | _ => cases failed; exact ⟨_, found, by rintro ⟨⟩, rfl⟩
  · rintro ⟨old, found, kind, rfl⟩
    refine ⟨old, s, [], ⟨found, rfl, rfl⟩, ?_⟩
    cases old with
    | number x => exact absurd rfl kind
    | _ => rfl

theorem rejected_failed_iff {event : Event} {e : ε} {e' : ε} :
    ((emit event >>= fun _ => fail e : Run χ ε α) s).verdict = .failed e' ↔ e' = e :=
  ⟨fun failed => by cases failed; rfl, by rintro rfl; rfl⟩

theorem cardArgument_failed_iff {name : Token} {a : Value} :
    (cardArgument name a s).verdict = .failed err ↔
      a.kind ≠ .card ∧ err = ⟨.argumentNotACard, name.pos⟩ := by
  cases a with
  | card c => simp [cardArgument, pure_apply, Value.kind]
  | _ => exact rejected_failed_iff.trans (by simp [Value.kind])

theorem cardArgument_done_iff {name : Token} {a : Value} {c : CardId} {t : Session χ}
    {events : List Event} :
    cardArgument name a s = ⟨.done c, t, events⟩ ↔ a = .card c ∧ s = t ∧ [] = events := by
  cases a with
  | card d => simp [cardArgument, pure_apply]
  | _ => exact iff_of_false (by rintro ⟨⟩) (by rintro ⟨⟨⟩, -⟩)

theorem noOverload_failed_iff {name : Token} {given : Nat} :
    (noOverload name given s).verdict = .failed err ↔
      err = ⟨.noOverload name.lexeme given, name.pos⟩ :=
  ⟨fun failed => by cases failed; rfl, by rintro rfl; rfl⟩

theorem listOf_not_failed {r : Except Refusal ZoneHandle} :
    ((ofContext r >>= fun zone => pure (.cardList zone) : Run χ RuntimeError Value) s).verdict ≠
      .failed err := by
  cases r <;> rintro ⟨⟩

end

variable {χ : Type} [ScriptContext χ] {s : Session χ} {err : RuntimeError}

theorem applyBinary_failed_iff {op : BinaryOp} {operator : Token} {a b : Value} :
    (applyBinary op operator a b s).verdict = .failed err ↔
      op.apply (ScriptContext.cards? s.context) a b = .error err.cause ∧
      err.pos = operator.pos := by
  simp only [applyBinary, getContext_bind, located_failed_iff]

theorem numberedZone_failed_iff {kind : ZoneKind} {access : Token} {a : Value} :
    (numberedZone kind access a s).verdict = .failed err ↔
      a.kind ≠ .number ∧ err = ⟨.playerNotANumber, access.pos⟩ ∨
      ∃ x, a = .number x ∧ ScriptContext.player? s.context (Number.toInt64 x) = none ∧
        err = ⟨.noSuchPlayer (Number.toInt64 x), access.pos⟩ := by
  cases a with
  | number x =>
    simp only [numberedZone, getContext_bind]
    cases player : ScriptContext.player? s.context (Number.toInt64 x) with
    | some p => exact iff_of_false listOf_not_failed (by simp [Value.kind, player])
    | none => simp [fail, Value.kind, player, eq_comm]
  | _ => exact rejected_failed_iff.trans (by simp [Value.kind])

theorem cardsOf_failed_iff {zone : ZoneHandle} {pos : SourcePos} :
    (cardsOf zone pos s).verdict = .failed err ↔
      ScriptContext.cards? s.context zone = none ∧ err = ⟨.unknownZone zone, pos⟩ := by
  simp only [cardsOf, getContext_bind]
  cases ScriptContext.cards? s.context zone <;> simp [pure_apply, fail, eq_comm]

theorem editOf_failed_iff {zone : ZoneHandle} {pos : SourcePos} :
    (editOf zone pos s).verdict = .failed err ↔
      ScriptContext.edit? s.context zone = none ∧ err = ⟨.unknownZone zone, pos⟩ := by
  simp only [editOf, getContext_bind]
  cases ScriptContext.edit? s.context zone <;> simp [pure_apply, fail, eq_comm]

theorem receiverOf_failed_iff {name : Token} {a : Value} :
    (receiverOf name a s).verdict = .failed err ↔
      a.kind ≠ .cardList ∧ err = ⟨.receiverNotAList name.lexeme, name.pos⟩ ∨
      ∃ zone, a = .cardList zone ∧ ScriptContext.cards? s.context zone = none ∧
        err = ⟨.unknownZone zone, name.pos⟩ := by
  cases a with
  | cardList zone =>
    rw [show receiverOf name (.cardList zone) =
      cardsOf zone name.pos >>= fun _ => pure zone from rfl, bind_failed_iff, cardsOf_failed_iff]
    simp [pure_apply, Value.kind]
  | _ => exact rejected_failed_iff.trans (by simp [Value.kind])

theorem receiverOf_done_iff {name : Token} {a : Value} {zone : ZoneHandle} {t : Session χ}
    {events : List Event} :
    receiverOf name a s = ⟨.done zone, t, events⟩ ↔ a = .cardList zone ∧
      ScriptContext.cards? s.context zone ≠ none ∧ s = t ∧ [] = events := by
  cases a with
  | cardList y =>
    simp only [receiverOf, cardsOf, bind_bind, getContext_bind]
    cases shown : ScriptContext.cards? s.context y with
    | some cards =>
      rw [pure_bind, pure_apply]
      refine ⟨?_, by rintro ⟨⟨⟩, -, rfl, rfl⟩; rfl⟩
      rintro ⟨⟩
      exact ⟨rfl, by simp [shown], rfl, rfl⟩
    | none => exact iff_of_false (by rintro ⟨⟩) (by rintro ⟨⟨⟩, known, -⟩; exact known shown)
  | _ => exact iff_of_false (by rintro ⟨⟩) (by rintro ⟨⟨⟩, -⟩)

theorem applyCard_failed_iff {m : CardMethod} {zone : ZoneHandle} {c : CardId} {pos : SourcePos} :
    (applyCard m zone c pos s).verdict = .failed err ↔
      ScriptContext.edit? s.context zone = none ∧ err = ⟨.unknownZone zone, pos⟩ := by
  rw [applyCard, bind_failed_iff, editOf_failed_iff]
  refine or_iff_left ?_
  rintro ⟨edit, t, events, -, ⟨⟩⟩

theorem pop_failed_iff {zone : ZoneHandle} {pos : SourcePos} :
    (pop zone pos s).verdict = .failed err ↔
      ScriptContext.edit? s.context zone = none ∧ err = ⟨.unknownZone zone, pos⟩ := by
  rw [pop, bind_failed_iff, editOf_failed_iff]
  refine or_iff_left ?_
  rintro ⟨edit, t, events, -, ⟨⟩⟩

theorem shuffle_failed_iff {zone : ZoneHandle} {cards : List CardId} {pos : SourcePos}
    (shown : ScriptContext.cards? s.context zone = some cards) :
    (shuffle zone pos s).verdict = .failed err ↔
      ScriptContext.edit? (drawn s.context cards) zone = none ∧ err = ⟨.unknownZone zone, pos⟩ := by
  rw [shuffle_of_shown shown]
  cases ScriptContext.edit? (drawn s.context cards) zone <;> simp [eq_comm]

end Run

end CardEffects
