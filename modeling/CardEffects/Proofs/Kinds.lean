import CardEffects.Proofs.Causes
import CardEffects.Proofs.Variables

/-!
# The kinds of values

No value turns into one of another kind by itself, so that an expression which finishes has a value
of the kind that it dictates. `Null` comes from a gap in the script or from an empty pile, and as no
variable ever holds it, it comes from nowhere else.
-/

namespace CardEffects

def UnaryOp.yields : UnaryOp → ValueKind
  | not => .boolean
  | negate => .number

def BinaryOp.yields : BinaryOp → ValueKind
  | and | or | equal | notEqual | greater | greaterEqual | less | lessEqual => .boolean
  | concat | concatSpaced => .text
  | add | subtract | multiply | divide | power => .number

def OfKind (kind : ValueKind) (r : Except Cause Value) : Prop := ∀ v, r = .ok v → v.kind = kind

theorem ofKind_ok {kind : ValueKind} {v : Value} (h : v.kind = kind) : OfKind kind (.ok v) := by
  rintro _ ⟨⟩
  exact h

theorem ofKind_error (kind : ValueKind) (cause : Cause) : OfKind kind (.error cause) := nofun

theorem UnaryOp.apply_ofKind (op : UnaryOp) (v : Value) : OfKind op.yields (op.apply v) := by
  cases op <;> cases v <;> first | exact ofKind_ok rfl | exact ofKind_error _ _

theorem onBooleans_ofKind (f : Bool → Bool → Bool) (a b : Value) :
    OfKind .boolean (onBooleans f a b) := by
  simp only [onBooleans]
  split
  · exact ofKind_ok rfl
  · exact ofKind_error _ _

theorem onTexts_ofKind (f : String → String → String) (a b : Value) :
    OfKind .text (onTexts f a b) := by
  simp only [onTexts]
  split
  · exact ofKind_ok rfl
  · exact ofKind_error _ _

theorem comparing_ofKind (f : Float → Float → Bool) (a b : Value) :
    OfKind .boolean (comparing f a b) := by
  simp only [comparing]
  split
  · exact ofKind_ok rfl
  · exact ofKind_error _ _

theorem onNumbers_ofKind (f : Float → Float → Float) (a b : Value) :
    OfKind .number (onNumbers f a b) := by
  simp only [onNumbers]
  split
  · exact ofKind_ok rfl
  · exact ofKind_error _ _

theorem BinaryOp.apply_ofKind (cards? : ZoneHandle → Option (List CardId)) (op : BinaryOp)
    (a b : Value) :
    OfKind op.yields (op.apply cards? a b) := by
  have compared (f : Bool → Value) (boolean : ∀ same, (f same).kind = .boolean) :
      OfKind .boolean ((Value.equal cards? a b).map f) := by
    cases Value.equal cards? a b with
    | ok same => exact ofKind_ok (boolean same)
    | error cause => exact ofKind_error _ _
  cases op with
  | and => exact onBooleans_ofKind _ a b
  | or => exact onBooleans_ofKind _ a b
  | equal => exact compared _ fun _ => rfl
  | notEqual => exact compared _ fun _ => rfl
  | concat => exact onTexts_ofKind _ a b
  | concatSpaced => exact onTexts_ofKind _ a b
  | greater => exact comparing_ofKind _ a b
  | greaterEqual => exact comparing_ofKind _ a b
  | less => exact comparing_ofKind _ a b
  | lessEqual => exact comparing_ofKind _ a b
  | add => exact onNumbers_ofKind _ a b
  | subtract => exact onNumbers_ofKind _ a b
  | multiply => exact onNumbers_ofKind _ a b
  | divide => exact onNumbers_ofKind _ a b
  | power => exact onNumbers_ofKind _ a b

theorem numberLiteral_ofKind (lexeme : String) : OfKind .number (numberLiteral lexeme) := by
  simp only [numberLiteral]
  split
  · exact ofKind_ok rfl
  · exact ofKind_error _ _

theorem booleanLiteral_ofKind (lexeme : String) : OfKind .boolean (booleanLiteral lexeme) := by
  simp only [booleanLiteral]
  split
  · exact ofKind_ok rfl
  · split
    · exact ofKind_ok rfl
    · exact ofKind_error _ _

theorem poppedValue_kind (c : Option CardId) :
    (poppedValue c).kind = .card ∨ (poppedValue c).kind = .null := by
  cases c with
  | some c => exact .inl rfl
  | none => exact .inr rfl

theorem Value.kind_eq_null_iff {v : Value} : v.kind = .null ↔ v = .null := by
  cases v <;> simp [kind]

theorem Value.ne_null_of_kind {v : Value} {kind : ValueKind} (h : v.kind = kind)
    (other : kind ≠ .null) :
    v ≠ .null := by
  rintro rfl
  exact other h.symm

theorem poppedValue_eq_null_iff {cards : List CardId} :
    poppedValue cards.head? = .null ↔ cards = [] := by
  cases cards with
  | nil => exact iff_of_true rfl rfl
  | cons c rest => exact iff_of_false nofun nofun

def Environment.NullFree (env : Environment) : Prop := ∀ name, env.lookup? name ≠ some .null

structure Environment.Grown (before after : Environment) : Prop where
  free : before.NullFree → after.NullFree
  bound (name : String) : before.lookup? name ≠ none → after.lookup? name ≠ none

theorem Environment.grown_refl (env : Environment) : env.Grown env := ⟨id, fun _ => id⟩

theorem Environment.Grown.trans {env env' env'' : Environment} (h : env.Grown env')
    (h' : env'.Grown env'') :
    env.Grown env'' :=
  ⟨fun free => h'.free (h.free free), fun name bound => h'.bound name (h.bound name bound)⟩

theorem Environment.grown_assign (env : Environment) (name : String) {v : Value}
    (stored : v.isNull = false) :
    env.Grown (env.assign name v) := by
  refine ⟨fun free x => ?_, fun x bound => ?_⟩
  · rw [lookup?_assign]
    split
    · rintro ⟨⟩
      cases stored
    · exact free x
  · rw [lookup?_assign]
    split
    · exact nofun
    · exact bound

theorem Run.Blind.grown {χ ε α : Type} {x : Run χ ε α} (hx : x.Blind) (s : Session χ) :
    s.env.Grown (x s).session.env := by
  rw [hx.env_eq s]
  exact s.env.grown_refl

theorem Run.grown_isScriptTrace {χ : Type} [ScriptContext χ] :
    Run.IsScriptTrace (χ := χ) fun s _ t => s.env.Grown t.env where
  nil s := s.env.grown_refl
  append := .trans
  assigned s name _ stored := s.env.grown_assign name stored
  rejected s _ _ := s.env.grown_refl
  card m zone c pos := (blind_applyCard m zone c pos).grown
  pile m zone pos := (blind_applyPile m zone pos).grown

section

variable {χ : Type} [ScriptContext χ]

/-- What an expression at a level dictates of its value if it is run from `s`. -/
def Dictates (limit : Option Nat) (level : Nat) (s : Session χ) (v : Value) : Expr → Prop
  | .number token => v.kind = if token.isSome then .number else .null
  | .text token => v.kind = if token.isSome then .text else .null
  | .boolean token => v.kind = if token.isSome then .boolean else .null
  | .var name => s.env.lookup? name.lexeme = some v
  | .group inner | .assign _ inner => (evaluate limit (level + 1) inner s).verdict = .done v
  | .unary op _ _ => v.kind = op.yields
  | .binary op _ _ _ => v.kind = op.yields
  | .step _ _ _ | .trigger _ => v.kind = .number
  | .zone _ _ | .zoneOf _ _ _ => v.kind = .cardList
  | .call receiver (.pile .shuffle) _ | .callWith receiver (.card .push) _ _
  | .callWith receiver (.card .sendBottom) _ _ =>
    v.kind = .cardList ∧ (evaluate limit (level + 1) receiver s).verdict = .done v
  | .callWith _ (.card .remove) _ _ => v.kind = .boolean
  | .call _ (.pile .pop) _ => v.kind = .card ∨ v.kind = .null
  | .call _ (.card _) _ | .callWith _ (.pile _) _ _ => False

/-- Through groups and assignments the expression comes down to a literal that is missing or to a
`Pop` that finds no card. -/
inductive ComesToNull (limit : Option Nat) (s : Session χ) : Nat → Expr → Prop
  | number (level : Nat) : ComesToNull limit s level (.number none)
  | text (level : Nat) : ComesToNull limit s level (.text none)
  | boolean (level : Nat) : ComesToNull limit s level (.boolean none)
  | pop {level : Nat} {receiver : Expr} {name : Token} {zone : ZoneHandle} {t : Session χ}
      {events : List Event} {edit : ZoneEdit χ} :
      evaluate limit (level + 1) receiver s = ⟨.done (.cardList zone), t, events⟩ →
      ScriptContext.edit? t.context zone = some edit → edit.cards = [] →
      ComesToNull limit s level (.call receiver (.pile .pop) name)
  | group {level : Nat} {inner : Expr} :
      ComesToNull limit s (level + 1) inner → ComesToNull limit s level (.group inner)
  | assign {level : Nat} {name : Token} {value : Expr} :
      ComesToNull limit s (level + 1) value → ComesToNull limit s level (.assign name value)

end

namespace Run

section

variable {χ α : Type} {s t : Session χ} {v w : Value}

theorem located_done {pos : SourcePos} {r : Except Cause α} {a : α}
    (done : (located (χ := χ) pos r s).verdict = .done a) : r = .ok a := by
  cases r with
  | ok b =>
    cases done
    rfl
  | error cause => cases done

theorem literal_done {token : Option Token} {read : String → Except Cause Value} {kind : ValueKind}
    (reads : ∀ lexeme, OfKind kind (read lexeme))
    (done : (literal token read s).verdict = .done v) :
    v.kind = if token.isSome then kind else .null := by
  cases token with
  | none =>
    cases done
    rfl
  | some token => exact reads token.lexeme v (located_done done)

theorem assignTo_done {name : Token} (done : (assignTo name v s).verdict = .done w) : v = w := by
  by_cases null : v.isNull
  · simp only [assignTo, null] at done
    cases done
    rfl
  · simp only [assignTo, null] at done
    cases done
    rfl

theorem stepOn_done {op : StepOp} {name operator : Token}
    (done : (stepOn op name operator s).verdict = .done v) :
    v.kind = .number := by
  obtain ⟨old, t, events, -, done⟩ := bind_done_iff.mp done
  cases old with
  | number x =>
    cases done
    rfl
  | _ => cases done

theorem listOf_done {r : Except Refusal ZoneHandle}
    (done : ((ofContext r >>= fun zone => pure (.cardList zone) : Run χ RuntimeError Value)
      s).verdict = .done v) :
    v.kind = .cardList := by
  cases r with
  | ok zone =>
    cases done
    rfl
  | error r => cases done

end

variable {χ : Type} [ScriptContext χ] {s : Session χ} {v w : Value}

theorem numberedZone_done {kind : ZoneKind} {access : Token}
    (done : (numberedZone kind access w s).verdict = .done v) : v.kind = .cardList := by
  cases w with
  | number x =>
    simp only [numberedZone, getContext_bind] at done
    cases player : ScriptContext.player? s.context (Number.toInt64 x) with
    | some p =>
      rw [player] at done
      exact listOf_done done
    | none =>
      rw [player] at done
      cases done
  | _ => cases done

theorem applyCard_done {m : CardMethod} {zone : ZoneHandle} {c : CardId} {pos : SourcePos}
    (done : (applyCard m zone c pos s).verdict = .done v) : ∃ cards, v = m.result zone c cards := by
  obtain ⟨edit, t, events, -, done⟩ := bind_done_iff.mp done
  cases done
  exact ⟨edit.cards, rfl⟩

theorem pop_done {zone : ZoneHandle} {pos : SourcePos} (done : (pop zone pos s).verdict = .done v) :
    ∃ edit, ScriptContext.edit? s.context zone = some edit ∧ v = poppedValue edit.cards.head? := by
  simp only [pop, editOf, bind_bind, getContext_bind] at done
  cases opened : ScriptContext.edit? s.context zone with
  | some edit =>
    rw [opened] at done
    cases done
    exact ⟨edit, rfl, rfl⟩
  | none =>
    rw [opened] at done
    cases done

theorem shuffle_done {zone : ZoneHandle} {pos : SourcePos}
    (done : (shuffle zone pos s).verdict = .done v) :
    v = .cardList zone := by
  cases shown : ScriptContext.cards? s.context zone with
  | some cards =>
    rw [shuffle_of_shown shown] at done
    cases opened : ScriptContext.edit? (drawn s.context cards) zone with
    | some edit =>
      rw [opened] at done
      cases done
      rfl
    | none =>
      rw [opened] at done
      cases done
  | none =>
    simp only [shuffle, cardsOf, bind_bind, getContext_bind, shown] at done
    cases done

theorem receiverOf_done {name : Token} {zone : ZoneHandle} {t : Session χ} {events : List Event}
    (done : receiverOf name v s = ⟨.done zone, t, events⟩) : v = .cardList zone ∧ s = t := by
  obtain ⟨list, -, same, -⟩ := receiverOf_done_iff.mp done
  exact ⟨list, same⟩

theorem evaluate_dictates {limit : Option Nat} {level : Nat} {e : Expr}
    (done : (evaluate limit level e s).verdict = .done v) : Dictates limit level s v e := by
  rw [evaluate.eq_def] at done
  replace done := checked_done done
  cases e with
  | number token => exact literal_done numberLiteral_ofKind done
  | text token => exact literal_done (fun lexeme => ofKind_ok rfl) done
  | boolean token => exact literal_done booleanLiteral_ofKind done
  | var name =>
    simp only [variableOf, getEnv_bind] at done
    cases found : s.env.lookup? name.lexeme with
    | some w =>
      rw [found] at done
      cases done
      exact found
    | none =>
      rw [found] at done
      cases done
  | group inner => exact done
  | unary op operator operand =>
    obtain ⟨w, t, events, -, done⟩ := bind_done_iff.mp done
    exact op.apply_ofKind w v (located_done done)
  | binary op operator left right =>
    obtain ⟨a, t, events, -, done⟩ := bind_done_iff.mp done
    obtain ⟨b, u, later, -, done⟩ := bind_done_iff.mp done
    exact op.apply_ofKind _ a b v (located_done done)
  | assign name value =>
    obtain ⟨w, t, events, rhs, done⟩ := bind_done_iff.mp done
    cases assignTo_done done
    exact congrArg Outcome.verdict rhs
  | step op name operator => exact stepOn_done done
  | trigger token =>
    cases done
    rfl
  | zone kind access => exact listOf_done done
  | zoneOf kind player access =>
    obtain ⟨w, t, events, -, done⟩ := bind_done_iff.mp done
    exact numberedZone_done done
  | call receiver method name =>
    obtain ⟨w, t, events, first, done⟩ := bind_done_iff.mp done
    obtain ⟨zone, u, later, received, done⟩ := bind_done_iff.mp done
    obtain ⟨rfl, rfl⟩ := receiverOf_done received
    rcases method with m | (_ | _)
    · cases done
    · obtain ⟨edit, -, rfl⟩ := pop_done done
      exact poppedValue_kind _
    · cases shuffle_done done
      exact ⟨rfl, congrArg Outcome.verdict first⟩
  | callWith receiver method name arg =>
    obtain ⟨w, t, events, first, done⟩ := bind_done_iff.mp done
    obtain ⟨zone, u, later, received, done⟩ := bind_done_iff.mp done
    obtain ⟨rfl, rfl⟩ := receiverOf_done received
    rcases method with m | m
    · obtain ⟨given, t', _, -, done⟩ := bind_done_iff.mp done
      obtain ⟨c, u', _, -, done⟩ := bind_done_iff.mp done
      obtain ⟨cards, rfl⟩ := applyCard_done done
      cases m with
      | push | sendBottom => exact ⟨rfl, congrArg Outcome.verdict first⟩
      | remove => rfl
    · cases done

theorem evaluate_pop_done {limit : Option Nat} {level : Nat} {receiver : Expr} {name : Token}
    (done : (evaluate limit level (.call receiver (.pile .pop) name) s).verdict = .done v) :
    ∃ zone t events edit, evaluate limit (level + 1) receiver s =
      ⟨.done (.cardList zone), t, events⟩ ∧
      ScriptContext.edit? t.context zone = some edit ∧ v = poppedValue edit.cards.head? := by
  rw [evaluate] at done
  obtain ⟨w, t, events, first, popped⟩ := bind_done_iff.mp (checked_done done)
  obtain ⟨zone, u, later, received, popped⟩ := bind_done_iff.mp popped
  obtain ⟨rfl, rfl⟩ := receiverOf_done received
  obtain ⟨edit, opened, rfl⟩ := pop_done popped
  exact ⟨zone, t, events, edit, first, opened, rfl⟩

theorem eq_null_iff {limit : Option Nat} {level : Nat} {e : Expr} (free : s.env.NullFree)
    (done : (evaluate limit level e s).verdict = .done v) :
    v = .null ↔ ComesToNull limit s level e := by
  have dictated := evaluate_dictates done
  -- Groups and assignments hand on the value of the expression below them, which was entered in
  -- the same session; every other node settles the matter by the kind of its value.
  induction e generalizing level with
  | number token =>
    cases token with
    | none => exact iff_of_true (Value.kind_eq_null_iff.mp dictated) (.number level)
    | some token => exact iff_of_false (Value.ne_null_of_kind dictated nofun) nofun
  | text token =>
    cases token with
    | none => exact iff_of_true (Value.kind_eq_null_iff.mp dictated) (.text level)
    | some token => exact iff_of_false (Value.ne_null_of_kind dictated nofun) nofun
  | boolean token =>
    cases token with
    | none => exact iff_of_true (Value.kind_eq_null_iff.mp dictated) (.boolean level)
    | some token => exact iff_of_false (Value.ne_null_of_kind dictated nofun) nofun
  | var name =>
    refine iff_of_false ?_ nofun
    rintro rfl
    exact free name.lexeme dictated
  | group inner ih =>
    refine (ih dictated (evaluate_dictates dictated)).trans ⟨.group, ?_⟩
    rintro (_ | _ | _ | _ | inner)
    exact inner
  | assign name value ih =>
    refine (ih dictated (evaluate_dictates dictated)).trans ⟨.assign, ?_⟩
    rintro (_ | _ | _ | _ | _ | value)
    exact value
  | unary op operator operand =>
    refine iff_of_false (Value.ne_null_of_kind dictated ?_) nofun
    cases op <;> exact nofun
  | binary op operator left right =>
    refine iff_of_false (Value.ne_null_of_kind dictated ?_) nofun
    cases op <;> exact nofun
  | step | trigger | zone | zoneOf =>
    exact iff_of_false (Value.ne_null_of_kind dictated nofun) nofun
  | call receiver method name =>
    rcases method with m | (_ | _)
    · exact dictated.elim
    · obtain ⟨zone, t, events, edit, first, opened, rfl⟩ := evaluate_pop_done done
      refine poppedValue_eq_null_iff.trans ⟨.pop first opened, ?_⟩
      rintro (_ | _ | _ | ⟨again, opened', empty⟩)
      cases first.symm.trans again
      cases opened.symm.trans opened'
      exact empty
    · exact iff_of_false (Value.ne_null_of_kind dictated.1 nofun) nofun
  | callWith receiver method name arg =>
    rcases method with (_ | _ | _) | m
    · exact iff_of_false (Value.ne_null_of_kind dictated.1 nofun) nofun
    · exact iff_of_false (Value.ne_null_of_kind dictated.1 nofun) nofun
    · exact iff_of_false (Value.ne_null_of_kind dictated nofun) nofun
    · exact dictated.elim

theorem assign_of_null {limit : Option Nat} {level : Nat} {name : Token} {value : Expr}
    {t : Session χ} {events : List Event}
    (done : evaluate limit (level + 1) value s = ⟨.done .null, t, events⟩) :
    evaluate limit level (.assign name value) s = ⟨.done .null, t, events⟩ := by
  rw [evaluate, checkLevel_of_done done, pure_bind, bind_of_done done]
  exact congrArg (Outcome.mk _ _) (List.append_nil events)

end Run

/-- Without a `Null` among the variables there is none afterwards, however a script ends, and all
that were bound still are. A value is of the kind that its expression dictates, and it is `Null` if
and only if the expression comes down to a gap or an empty pile. To assign it does nothing at
all. -/
theorem values_are_of_their_kinds {χ : Type} [ScriptContext χ] (config : EvalConfig) (e : Expr)
    (s : Session χ) (free : s.env.NullFree) :
    let limit := some config.maxDepth
    let o := config.run e s
    o.session.env.NullFree ∧
      (∀ name, s.env.lookup? name ≠ none → o.session.env.lookup? name ≠ none) ∧
      (∀ v, o.verdict = .done v → Dictates limit 0 s v e ∧ (v = .null ↔ ComesToNull limit s 0 e)) ∧
      ∀ level name value t u events,
        evaluate (χ := χ) limit (level + 1) value t = ⟨.done .null, u, events⟩ →
        evaluate limit level (.assign name value) t = ⟨.done .null, u, events⟩ := by
  intro limit o
  have ran : o = evaluate limit 0 e s := congrFun (config.run_eq e) s
  have grown : s.env.Grown o.session.env := by
    rw [ran]
    exact Run.evaluate_leaves Run.grown_isScriptTrace limit 0 e s
  refine ⟨grown.free free, grown.bound, fun v done => ?_, fun _ _ _ _ _ _ => Run.assign_of_null⟩
  rw [ran] at done
  exact ⟨Run.evaluate_dictates done, Run.eq_null_iff free done⟩

theorem values_are_of_their_kinds_empty_pop :
    let env := Environment.empty.assign "x" (.text "Wolf")
    let m : MatchState := ⟨1, ⟨0⟩, MatchState.layout 1, ∅, .ofSeed 0, ⟨1⟩⟩
    let draw := Expr.group (.ofCall (.ofZone .deck) (.pile .pop))
    let s : Session MatchState := ⟨env, m⟩
    let o := EvalConfig.default.run (.ofAssign "x" draw) s
    env.NullFree ∧ o.verdict = .done .null ∧
      ComesToNull (some EvalConfig.default.maxDepth) s 0 (.ofAssign "x" draw) ∧
      o.session.env.NullFree ∧
      o.session.env.lookup? "x" = some (.text "Wolf") ∧ o.session.env.lookup? "x" ≠ none := by
  intro env m draw s o
  have free : env.NullFree := by
    intro name
    simp only [env, Environment.lookup?_assign, Environment.lookup?_empty]
    split <;> exact nofun
  obtain ⟨after, bound, dictates, -⟩ :=
    values_are_of_their_kinds .default (.ofAssign "x" draw) s free
  obtain ⟨-, null⟩ := dictates .null rfl
  exact ⟨free, rfl, null.mp rfl, after, rfl, bound "x" nofun⟩

end CardEffects
