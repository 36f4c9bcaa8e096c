import CardEffects.Proofs.Invariants
import Mathlib.Data.List.Forall2

/-!
# Two runs side by side

Two runs are alike if from related sessions they end in the same way, in related sessions and with
related events. Scripts tell values apart by what they are and cards by whether they are the same;
so a relation which the variables and the operations of two contexts keep is kept by every
expression, also where parts of it are replaced by others that keep the relation.
-/

namespace CardEffects

def Expr.namesPlayer : Expr → Bool
  | .number _ | .text _ | .boolean _ | .var _ | .step _ _ _ | .trigger _ | .zone _ _ => false
  | .zoneOf _ _ _ => true
  | .group inner => inner.namesPlayer
  | .unary _ _ operand => operand.namesPlayer
  | .binary _ _ left right => left.namesPlayer || right.namesPlayer
  | .assign _ value => value.namesPlayer
  | .call receiver _ _ => receiver.namesPlayer
  | .callWith receiver _ _ arg => receiver.namesPlayer || arg.namesPlayer

namespace Expr

def nodes (e : Expr) : List Expr :=
  e :: match e with
  | .number _ | .text _ | .boolean _ | .var _ | .step _ _ _ | .trigger _ | .zone _ _ => []
  | .group inner => inner.nodes
  | .unary _ _ operand => operand.nodes
  | .binary _ _ left right => left.nodes ++ right.nodes
  | .assign _ value => value.nodes
  | .zoneOf _ player _ => player.nodes
  | .call receiver _ _ => receiver.nodes
  | .callWith receiver _ _ arg => receiver.nodes ++ arg.nodes

theorem namesPlayer_of_mem_nodes {e node : Expr} (mem : node ∈ e.nodes)
    (names : node.namesPlayer = true) :
    e.namesPlayer = true := by
  induction e with
  | number | text | boolean | var | step | trigger | zone =>
    rwa [List.mem_singleton.mp mem] at names
  | zoneOf kind player access ih => rfl
  | group inner ih | unary op operator inner ih | assign name inner ih
  | call inner method name ih =>
    rcases List.mem_cons.mp mem with rfl | below
    · exact names
    · exact ih below
  | binary op operator left right ihl ihr | callWith left method name right ihl ihr =>
    rcases List.mem_cons.mp mem with rfl | below
    · exact names
    · exact Bool.or_eq_true_iff.mpr ((List.mem_append.mp below).imp ihl ihr)

/-- The second expression is the first with parts replaced as `R` tells, in any number of places. -/
inductive Rewritten (R : Expr → Expr → Prop) : Expr → Expr → Prop
  | here {e e' : Expr} : R e e' → Rewritten R e e'
  | number (token : Option Token) : Rewritten R (.number token) (.number token)
  | text (token : Option Token) : Rewritten R (.text token) (.text token)
  | boolean (token : Option Token) : Rewritten R (.boolean token) (.boolean token)
  | var (name : Token) : Rewritten R (.var name) (.var name)
  | step (op : StepOp) (name operator : Token) :
      Rewritten R (.step op name operator) (.step op name operator)
  | trigger (token : Token) : Rewritten R (.trigger token) (.trigger token)
  | zone (kind : ZoneKind) (access : Token) : Rewritten R (.zone kind access) (.zone kind access)
  | group {inner inner' : Expr} :
      Rewritten R inner inner' → Rewritten R (.group inner) (.group inner')
  | unary (op : UnaryOp) (operator : Token) {operand operand' : Expr} :
      Rewritten R operand operand' →
      Rewritten R (.unary op operator operand) (.unary op operator operand')
  | binary (op : BinaryOp) (operator : Token) {left left' right right' : Expr} :
      Rewritten R left left' → Rewritten R right right' →
      Rewritten R (.binary op operator left right) (.binary op operator left' right')
  | assign (name : Token) {value value' : Expr} :
      Rewritten R value value' → Rewritten R (.assign name value) (.assign name value')
  | zoneOf (kind : ZoneKind) (access : Token) {player player' : Expr} :
      Rewritten R player player' →
      Rewritten R (.zoneOf kind player access) (.zoneOf kind player' access)
  | call (method : ListMethod) (name : Token) {receiver receiver' : Expr} :
      Rewritten R receiver receiver' →
      Rewritten R (.call receiver method name) (.call receiver' method name)
  | callWith (method : ListMethod) (name : Token) {receiver receiver' arg arg' : Expr} :
      Rewritten R receiver receiver' → Rewritten R arg arg' →
      Rewritten R (.callWith receiver method name arg) (.callWith receiver' method name arg')

variable {R : Expr → Expr → Prop}

theorem rewritten_refl (e : Expr) : e.Rewritten R e := by
  induction e with
  | number token => exact .number token
  | text token => exact .text token
  | boolean token => exact .boolean token
  | var name => exact .var name
  | step op name operator => exact .step op name operator
  | trigger token => exact .trigger token
  | zone kind access => exact .zone kind access
  | group inner ih => exact .group ih
  | unary op operator operand ih => exact .unary op operator ih
  | binary op operator left right ihl ihr => exact .binary op operator ihl ihr
  | assign name value ih => exact .assign name ih
  | zoneOf kind player access ih => exact .zoneOf kind access ih
  | call receiver method name ih => exact .call method name ih
  | callWith receiver method name arg ihr iha => exact .callWith method name ihr iha

theorem Rewritten.pos_eq {e e' : Expr} (h : e.Rewritten R e')
    (places : ∀ a b, R a b → a.pos = b.pos) :
    e.pos = e'.pos := by
  induction h with
  | here replaced => exact places _ _ replaced
  | group _ ih => exact ih
  | _ => rfl

end Expr

/-- The same value, but that the cards correspond by `C`; the card lists are such as `H` allows. -/
inductive Value.Alike (C : CardId → CardId → Prop) (H : ZoneHandle → Prop) : Value → Value → Prop
  | number (x : Float) : Alike C H (.number x) (.number x)
  | text (s : String) : Alike C H (.text s) (.text s)
  | boolean (b : Bool) : Alike C H (.boolean b) (.boolean b)
  | null : Alike C H .null .null
  | card {c d : CardId} : C c d → Alike C H (.card c) (.card d)
  | cardList {zone : ZoneHandle} : H zone → Alike C H (.cardList zone) (.cardList zone)

section

variable {C : CardId → CardId → Prop} {H : ZoneHandle → Prop} {v w v' w' : Value}

theorem Value.Alike.kind_eq (h : Value.Alike C H v w) : v.kind = w.kind := by cases h <;> rfl

theorem Value.Alike.eq (h : Value.Alike Eq H v w) : v = w := by
  cases h with
  | card same => rw [same]
  | _ => rfl

theorem Value.alike_plain (plain : v.isPlain = true) : Value.Alike C H v v := by
  cases v with
  | number x => exact .number x
  | text s => exact .text s
  | boolean b => exact .boolean b
  | null => exact .null
  | card _ => cases plain
  | cardList _ => cases plain

theorem Value.alike_self (h : ∀ zone, v = .cardList zone → H zone) : Value.Alike Eq H v v := by
  cases v with
  | card c => exact .card rfl
  | cardList zone => exact .cardList (h zone rfl)
  | _ => exact Value.alike_plain rfl

theorem UnaryOp.apply_alike (op : UnaryOp) (h : Value.Alike C H v w) : op.apply v = op.apply w := by
  cases h with
  | card _ => cases op <;> rfl
  | _ => rfl

theorem result_alike {γ : Type} {f : Value → Value → γ}
    (left : ∀ c d v, f (.card c) v = f (.card d) v) (right : ∀ c d v, f v (.card c) = f v (.card d))
    (h : Value.Alike C H v w) (h' : Value.Alike C H v' w') : f v v' = f w w' := by
  have first : f v v' = f w v' := by
    cases h with
    | card _ => exact left _ _ _
    | _ => rfl
  have second : f w v' = f w w' := by
    cases h' with
    | card _ => exact right _ _ _
    | _ => rfl
  exact first.trans second

theorem onBooleans_alike (f : Bool → Bool → Bool) (h : Value.Alike C H v w)
    (h' : Value.Alike C H v' w') :
    onBooleans f v v' = onBooleans f w w' :=
  result_alike (fun _ _ _ => rfl) (fun _ _ v => by cases v <;> rfl) h h'

theorem onTexts_alike (f : String → String → String) (h : Value.Alike C H v w)
    (h' : Value.Alike C H v' w') : onTexts f v v' = onTexts f w w' :=
  result_alike (fun _ _ _ => rfl) (fun _ _ v => by cases v <;> rfl) h h'

theorem comparing_alike (f : Float → Float → Bool) (h : Value.Alike C H v w)
    (h' : Value.Alike C H v' w') : comparing f v v' = comparing f w w' :=
  result_alike (fun _ _ _ => rfl) (fun _ _ v => by cases v <;> rfl) h h'

theorem onNumbers_alike (f : Float → Float → Float) (h : Value.Alike C H v w)
    (h' : Value.Alike C H v' w') : onNumbers f v v' = onNumbers f w w' :=
  result_alike (fun _ _ _ => rfl) (fun _ _ v => by cases v <;> rfl) h h'

def Distinguishes (C : CardId → CardId → Prop) : Prop :=
  ∀ ⦃c d c' d'⦄, C c d → C c' d' → (c = c' ↔ d = d')

theorem Distinguishes.lists (hC : Distinguishes C) {l m l' m' : List CardId}
    (h : List.Forall₂ C l m) (h' : List.Forall₂ C l' m') : l = l' ↔ m = m' := by
  induction h generalizing l' m' with
  | nil =>
    cases h' with
    | nil => simp
    | cons _ _ => simp
  | cons first _ ih =>
    cases h' with
    | nil => simp
    | cons first' rest' => simp only [List.cons.injEq, hC first first', ih rest']

def ShowsAlike (C : CardId → CardId → Prop) (cards? cards?' : ZoneHandle → Option (List CardId))
    (zone : ZoneHandle) : Prop :=
  (cards? zone = none ∧ cards?' zone = none) ∨
    ∃ l m, cards? zone = some l ∧ cards?' zone = some m ∧ List.Forall₂ C l m

variable {cards? cards?' : ZoneHandle → Option (List CardId)}

theorem Value.equal_alike (hC : Distinguishes C)
    (shows : ∀ zone, H zone → ShowsAlike C cards? cards?' zone) (h : Value.Alike C H v w)
    (h' : Value.Alike C H v' w') :
    Value.equal cards? v v' = Value.equal cards?' w w' := by
  cases h with
  | card same =>
    cases h' with
    | card same' => simp only [Value.equal, Value.same, Bool.beq_eq_decide_eq, hC same same']
    | _ => rfl
  | @cardList y hy =>
    cases h' with
    | @cardList z hz =>
      simp only [Value.equal, knownCards]
      obtain ⟨left, left'⟩ | ⟨l, m, left, left', first⟩ := shows y hy
      · simp only [left, left']
        rfl
      obtain ⟨right, right'⟩ | ⟨l', m', right, right', second⟩ := shows z hz
      · simp only [left, left', right, right']
        rfl
      · have same : (l == l') = (m == m') := by
          rw [Bool.eq_iff_iff, beq_iff_eq, beq_iff_eq]
          exact hC.lists first second
        simp only [left, left', right, right', bind, Except.bind, same]
    | _ => rfl
  | _ => cases h' <;> rfl

theorem BinaryOp.apply_alike (hC : Distinguishes C)
    (shows : ∀ zone, H zone → ShowsAlike C cards? cards?' zone) (op : BinaryOp)
    (h : Value.Alike C H v w) (h' : Value.Alike C H v' w') :
    op.apply cards? v v' = op.apply cards?' w w' := by
  have compared := Value.equal_alike hC shows h h'
  cases op with
  | and => exact onBooleans_alike _ h h'
  | or => exact onBooleans_alike _ h h'
  | equal => exact congrArg (Except.map Value.boolean) compared
  | notEqual => exact congrArg (Except.map fun same => Value.boolean !same) compared
  | concat => exact onTexts_alike _ h h'
  | concatSpaced => exact onTexts_alike _ h h'
  | greater => exact comparing_alike _ h h'
  | greaterEqual => exact comparing_alike _ h h'
  | less => exact comparing_alike _ h h'
  | lessEqual => exact comparing_alike _ h h'
  | add => exact onNumbers_alike _ h h'
  | subtract => exact onNumbers_alike _ h h'
  | multiply => exact onNumbers_alike _ h h'
  | divide => exact onNumbers_alike _ h h'
  | power => exact onNumbers_alike _ h h'

end

def Verdict.Matches {ε α β : Type} (V : α → β → Prop) : Verdict ε α → Verdict ε β → Prop
  | done a, done b => V a b
  | failed e, failed e' => e = e'
  | refused r, refused r' => r = r'
  | _, _ => False

theorem Verdict.Matches.eq {ε α : Type} {V : α → α → Prop} {v w : Verdict ε α} (h : v.Matches V w)
    (hV : ∀ a b, V a b → a = b) : v = w := by
  cases v <;> cases w <;> first | exact h.elim | exact congrArg _ h | exact congrArg _ (hV _ _ h)

theorem Verdict.matches_refl {ε α : Type} (v : Verdict ε α) : v.Matches Eq v := by
  cases v <;> exact rfl

structure Outcome.Alike {χ χ' ε α β : Type} (S : Session χ → Session χ' → Prop)
    (L : Event → Event → Prop) (V : α → β → Prop) (o : Outcome χ ε α) (o' : Outcome χ' ε β) :
    Prop where
  verdict : o.verdict.Matches V o'.verdict
  session : S o.session o'.session
  events : List.Forall₂ L o.events o'.events

theorem Outcome.Alike.eq {χ ε α : Type} {S : Session χ → Session χ → Prop} {o o' : Outcome χ ε α}
    (h : o.Alike S Eq Eq o') (same : ∀ s t, S s t → s = t) : o = o' := by
  obtain ⟨verdict, session, events⟩ := o
  have verdicts := h.verdict.eq fun _ _ => id
  have sessions := same _ _ h.session
  have told := List.forall₂_eq_eq_eq ▸ h.events
  cases o'
  cases verdicts
  cases sessions
  cases told
  rfl

namespace Run

section

variable {χ χ' ε α β γ δ : Type} {S : Session χ → Session χ' → Prop} {L : Event → Event → Prop}
  {V : α → β → Prop} {W : γ → δ → Prop}

def Alike (S : Session χ → Session χ' → Prop) (L : Event → Event → Prop) (V : α → β → Prop)
    (x : Run χ ε α) (y : Run χ' ε β) : Prop :=
  ∀ s t, S s t → (x s).Alike S L V (y t)

theorem alike_pure {a : α} {b : β} (h : V a b) :
    Alike S L V (pure a : Run χ ε α) (pure b : Run χ' ε β) :=
  fun _ _ hst => ⟨h, hst, .nil⟩

theorem alike_fail (e : ε) : Alike S L V (fail e : Run χ ε α) (fail e : Run χ' ε β) :=
  fun _ _ hst => ⟨rfl, hst, .nil⟩

theorem alike_rejected {event : Event} (h : L event event) (e : ε) :
    Alike S L V (emit event >>= fun _ => fail e : Run χ ε α)
      (emit event >>= fun _ => fail e : Run χ' ε β) :=
  fun _ _ hst => ⟨rfl, hst, .cons h .nil⟩

theorem Alike.bind {x : Run χ ε α} {y : Run χ' ε β} {f : α → Run χ ε γ} {g : β → Run χ' ε δ}
    (h : Alike S L V x y) (hfg : ∀ a b, V a b → Alike S L W (f a) (g b)) :
    Alike S L W (x >>= f) (y >>= g) := by
  intro s t hst
  obtain ⟨verdict, session, events⟩ := h s t hst
  rcases left : x s with ⟨v, s', told⟩
  rcases right : y t with ⟨w, t', told'⟩
  rw [left, right] at verdict session events
  cases v with
  | done a =>
    cases w with
    | done b =>
      rw [bind_of_done left, bind_of_done right]
      obtain ⟨ends, session, later⟩ := hfg a b verdict s' t' session
      exact ⟨ends, session, List.rel_append events later⟩
    | _ => exact verdict.elim
  | failed e =>
    cases w with
    | failed e' =>
      rw [bind_of_failed left, bind_of_failed right]
      exact ⟨verdict, session, events⟩
    | _ => exact verdict.elim
  | refused r =>
    cases w with
    | refused r' =>
      rw [bind_of_refused left, bind_of_refused right]
      exact ⟨verdict, session, events⟩
    | _ => exact verdict.elim

theorem alike_located {r : Except Cause α} {V : α → α → Prop} (related : ∀ a, r = .ok a → V a a)
    (pos : SourcePos) : Alike S L V (located pos r) (located pos r) := by
  cases r with
  | ok a => exact alike_pure (related a rfl)
  | error cause => exact alike_fail _

theorem alike_literal {V : Value → Value → Prop} (related : ∀ v, v.isPlain = true → V v v)
    {read : String → Except Cause Value} (plain : ∀ lexeme, PlainResult (read lexeme))
    (token : Option Token) : Alike S L V (literal token read) (literal token read) := by
  cases token with
  | none => exact alike_pure (related _ rfl)
  | some token =>
    refine alike_located (fun v ok => related v ?_) token.pos
    have result := plain token.lexeme
    rwa [ok] at result

theorem alike_listOf (r : Except Refusal ZoneHandle) :
    Alike S L Eq (ofContext r >>= fun zone => pure (.cardList zone) : Run χ RuntimeError Value)
      (ofContext r >>= fun zone => pure (.cardList zone) : Run χ' RuntimeError Value) := by
  cases r with
  | ok zone => exact alike_pure rfl
  | error r => exact fun _ _ hst => ⟨rfl, hst, .nil⟩

theorem alike_checkLevel (limit : Option Nat) (level : Nat) (pos : SourcePos) :
    Alike S L Eq (checkLevel limit level pos) (checkLevel limit level pos) := by
  cases limit with
  | none => exact alike_pure rfl
  | some m =>
    simp only [checkLevel]
    split
    · exact alike_fail _
    · exact alike_pure rfl

end

variable {χ χ' : Type} [ScriptContext χ] [ScriptContext χ']

section

variable (S : Session χ → Session χ' → Prop) (L : Event → Event → Prop) (V : Value → Value → Prop)
  (Z : ZoneHandle → ZoneHandle → Prop)

/-- What the node does with the values of its operands is alike if these are; `Z` relates the zones
that receivers name. -/
def OperatesAlike : Expr → Prop
  | .number token => Alike S L V (literal token numberLiteral) (literal token numberLiteral)
  | .text token =>
    Alike S L V (literal token fun lexeme => .ok (textLiteral lexeme))
      (literal token fun lexeme => .ok (textLiteral lexeme))
  | .boolean token => Alike S L V (literal token booleanLiteral) (literal token booleanLiteral)
  | .var name => Alike S L V (variableOf name) (variableOf name)
  | .group _ => True
  | .unary op operator _ => ∀ v w, V v w →
    Alike S L V (located operator.pos (op.apply v)) (located operator.pos (op.apply w))
  | .binary op operator _ _ => ∀ v w v' w', V v w → V v' w' →
    Alike S L V (applyBinary op operator v v') (applyBinary op operator w w')
  | .assign name _ => ∀ v w, V v w → Alike S L V (assignTo name v) (assignTo name w)
  | .step op name operator => Alike S L V (stepOn op name operator) (stepOn op name operator)
  | .trigger _ => Alike S L V triggerPlayer triggerPlayer
  | .zone kind _ => Alike S L V (activeZone kind) (activeZone kind)
  | .zoneOf kind _ access => ∀ v w, V v w →
    Alike S L V (numberedZone kind access v) (numberedZone kind access w)
  | .call _ method name =>
    (∀ v w, V v w → Alike S L Z (receiverOf name v) (receiverOf name w)) ∧
      ∀ y z, Z y z → Alike S L V (callOn method y name) (callOn method z name)
  | .callWith _ (.card m) name _ =>
    (∀ v w, V v w → Alike S L Z (receiverOf name v) (receiverOf name w)) ∧
      ∀ y z v w, Z y z → V v w →
        Alike S L V (cardArgument name v >>= fun c => applyCard m y c name.pos)
          (cardArgument name w >>= fun c => applyCard m z c name.pos)
  | .callWith _ (.pile _) name _ =>
    ∀ v w, V v w → Alike S L Z (receiverOf name v) (receiverOf name w)

end

section

variable {S : Session χ → Session χ' → Prop} {L : Event → Event → Prop} {V : Value → Value → Prop}
  {Z : ZoneHandle → ZoneHandle → Prop}

theorem evaluate_rewritten {R : Expr → Expr → Prop} {limit : Option Nat} {e e' : Expr}
    (rewritten : e.Rewritten R e') (places : ∀ a b, R a b → a.pos = b.pos)
    (replaced : ∀ a b, R a b →
      ∀ level, Alike S L V (evaluate limit level a) (evaluate limit level b))
    (operates : ∀ node ∈ e.nodes, OperatesAlike S L V Z node) (level : Nat) :
    Alike S L V (evaluate limit level e) (evaluate limit level e') := by
  have node (level : Nat) {pos pos' : SourcePos} (same : pos = pos') {x : Run χ RuntimeError Value}
      {y : Run χ' RuntimeError Value} (hxy : Alike S L V x y) :
      Alike S L V (checkLevel limit level pos >>= fun _ => x)
        (checkLevel limit level pos' >>= fun _ => y) := by
    rw [same]
    exact (alike_checkLevel limit level pos').bind fun _ _ _ => hxy
  induction rewritten generalizing level with
  | here change => exact replaced _ _ change level
  | number token | text token | boolean token | var name | step op name operator | trigger token
  | zone kind access => exact node level rfl (operates _ List.mem_cons_self)
  | group inner ih =>
    exact node level (inner.pos_eq places)
      (ih (fun a mem => operates a (List.mem_cons_of_mem _ mem)) (level + 1))
  | unary op operator _ ih | assign name _ ih | zoneOf kind access _ ih =>
    exact node level rfl
      ((ih (fun a mem => operates a (List.mem_cons_of_mem _ mem)) (level + 1)).bind
        (operates _ List.mem_cons_self))
  | binary op operator _ _ ihl ihr =>
    have left := ihl (fun a mem => operates a (List.mem_cons_of_mem _ (List.mem_append_left _ mem)))
      (level + 1)
    have right :=
      ihr (fun a mem => operates a (List.mem_cons_of_mem _ (List.mem_append_right _ mem)))
        (level + 1)
    exact node level rfl (left.bind fun v w hv => right.bind fun v' w' hv' =>
      operates _ List.mem_cons_self v w v' w' hv hv')
  | call method name _ ih =>
    obtain ⟨accepts, calls⟩ := operates _ List.mem_cons_self
    exact node level rfl
      ((ih (fun a mem => operates a (List.mem_cons_of_mem _ mem)) (level + 1)).bind fun v w hv =>
        (accepts v w hv).bind calls)
  | callWith method name _ _ ihr iha =>
    have receiver :=
      ihr (fun a mem => operates a (List.mem_cons_of_mem _ (List.mem_append_left _ mem)))
        (level + 1)
    have arg := iha (fun a mem => operates a (List.mem_cons_of_mem _ (List.mem_append_right _ mem)))
      (level + 1)
    cases method with
    | card m =>
      obtain ⟨accepts, calls⟩ := operates _ List.mem_cons_self
      exact node level rfl (receiver.bind fun v w hv => (accepts v w hv).bind fun y z hz =>
        arg.bind fun given given' hg => calls y z given given' hz hg)
    | pile m =>
      exact node level rfl (receiver.bind fun v w hv =>
        (operates _ List.mem_cons_self v w hv).bind fun _ _ _ => alike_fail _)

theorem evaluate_alike {limit : Option Nat} {e : Expr}
    (operates : ∀ node ∈ e.nodes, OperatesAlike S L V Z node) (level : Nat) :
    Alike S L V (evaluate limit level e) (evaluate limit level e) :=
  evaluate_rewritten (R := fun _ _ => False) e.rewritten_refl (fun _ _ => nofun) (fun _ _ => nofun)
    operates level

end

/-- What a relation of sessions must have so that scripts keep it: variables that are alike, the
same active zones, known zones with corresponding cards, and methods that are alike on such. -/
structure IsScriptRelation (S : Session χ → Session χ' → Prop) (L : Event → Event → Prop)
    (C : CardId → CardId → Prop) (H : ZoneHandle → Prop) : Prop where
  distinguishes : Distinguishes C
  bound {s : Session χ} {t : Session χ'} (name : String) : S s t →
    Option.Rel (Value.Alike C H) (s.env.lookup? name) (t.env.lookup? name)
  assigned {s : Session χ} {t : Session χ'} (name : String) {v w : Value} : S s t →
      Value.Alike C H v w →
    S { s with env := s.env.assign name v } { t with env := t.env.assign name w }
  active {s : Session χ} {t : Session χ'} : S s t →
    ScriptContext.activePlayer s.context = ScriptContext.activePlayer t.context
  shows {s : Session χ} {t : Session χ'} : S s t → ∀ zone, H zone →
    ShowsAlike C (ScriptContext.cards? s.context) (ScriptContext.cards? t.context) zone
  rejected {event : Event} : event.isRejection = true → L event event
  activeZone (kind : ZoneKind) : Alike S L (Value.Alike C H) (activeZone kind) (activeZone kind)
  card (m : CardMethod) {zone : ZoneHandle} {c d : CardId} (pos : SourcePos) : H zone → C c d →
    Alike S L (Value.Alike C H) (applyCard m zone c pos) (applyCard m zone d pos)
  pile (m : PileMethod) {zone : ZoneHandle} (pos : SourcePos) : H zone →
    Alike S L (Value.Alike C H) (applyPile m zone pos) (applyPile m zone pos)

namespace IsScriptRelation

variable {S : Session χ → Session χ' → Prop} {L : Event → Event → Prop} {C : CardId → CardId → Prop}
  {H : ZoneHandle → Prop} (h : IsScriptRelation S L C H) {v w v' w' : Value}
include h

theorem variableOf (name : Token) :
    Alike S L (Value.Alike C H) (variableOf name) (variableOf name) := by
  intro s t hst
  have found := h.bound name.lexeme hst
  simp only [Run.variableOf, getEnv_bind]
  -- the two lookups have to be variables before their relation can be split
  generalize s.env.lookup? name.lexeme = x at found ⊢
  generalize t.env.lookup? name.lexeme = y at found ⊢
  cases found with
  | some alike => exact alike_pure alike s t hst
  | none => exact alike_fail _ s t hst

theorem assignTo (name : Token) (hv : Value.Alike C H v w) :
    Alike S L (Value.Alike C H) (assignTo name v) (assignTo name w) := by
  intro s t hst
  have null : w.isNull = v.isNull := by simp only [Value.isNull, hv.kind_eq]
  simp only [Run.assignTo, null]
  cases v.isNull with
  | true => exact ⟨hv, hst, .nil⟩
  | false => exact ⟨hv, h.assigned name.lexeme hst hv, .nil⟩

theorem stepOn (op : StepOp) (name operator : Token) :
    Alike S L (Value.Alike C H) (stepOn op name operator) (stepOn op name operator) := by
  refine (h.variableOf name).bind fun v w hv => ?_
  cases hv with
  | number old => exact fun s t hst => ⟨.number _, h.assigned name.lexeme hst (.number _), .nil⟩
  | _ => exact alike_fail _

theorem triggerPlayer : Alike S L (Value.Alike C H) triggerPlayer triggerPlayer := by
  intro s t hst
  simp only [Run.triggerPlayer, getContext_bind, h.active hst]
  exact alike_pure (.number _) s t hst

theorem applyBinary (op : BinaryOp) (operator : Token) (hv : Value.Alike C H v w)
    (hv' : Value.Alike C H v' w') :
    Alike S L (Value.Alike C H) (applyBinary op operator v v') (applyBinary op operator w w') := by
  intro s t hst
  simp only [Run.applyBinary, getContext_bind]
  rw [op.apply_alike h.distinguishes (h.shows hst) hv hv']
  refine alike_located (fun u ok => Value.alike_plain ?_) operator.pos s t hst
  obtain plain | ⟨zone, failed, -⟩ :=
    op.apply_plain_or_unknown (ScriptContext.cards? t.context) w w'
  · rwa [ok] at plain
  · cases ok.symm.trans failed

theorem receiverOf (name : Token) (hv : Value.Alike C H v w) :
    Alike S L (fun zone zone' => zone = zone' ∧ H zone) (receiverOf name v)
      (receiverOf name w) := by
  cases hv with
  | @cardList zone hz =>
    intro s t hst
    simp only [Run.receiverOf, cardsOf, bind_bind, getContext_bind]
    obtain ⟨unknown, unknown'⟩ | ⟨l, m, known, known', -⟩ := h.shows hst zone hz
    · simp only [unknown, unknown']
      exact alike_fail _ s t hst
    · simp only [known, known']
      exact alike_pure ⟨rfl, hz⟩ s t hst
  | _ => exact alike_rejected (h.rejected rfl) _

theorem cardArgument (name : Token) (hv : Value.Alike C H v w) :
    Alike S L C (cardArgument name v) (cardArgument name w) := by
  cases hv with
  | card same => exact alike_pure same
  | _ => exact alike_rejected (h.rejected rfl) _

theorem callOn (method : ListMethod) {zone : ZoneHandle} (name : Token) (hz : H zone) :
    Alike S L (Value.Alike C H) (callOn method zone name) (callOn method zone name) := by
  cases method with
  | pile m => exact h.pile m name.pos hz
  | card m => exact alike_fail _

theorem operatesAlike (node : Expr)
    (named : node.namesPlayer = true → ∀ kind access {v w}, Value.Alike C H v w →
      Alike S L (Value.Alike C H) (numberedZone kind access v) (numberedZone kind access w)) :
    OperatesAlike S L (Value.Alike C H) (fun zone zone' => zone = zone' ∧ H zone) node := by
  cases node with
  | number token => exact alike_literal (fun _ => Value.alike_plain) numberLiteral_plain token
  | text token => exact alike_literal (fun _ => Value.alike_plain) textLiteral_plain token
  | boolean token => exact alike_literal (fun _ => Value.alike_plain) booleanLiteral_plain token
  | var name => exact h.variableOf name
  | group inner => trivial
  | unary op operator operand =>
    intro v w hv
    rw [op.apply_alike hv]
    refine alike_located (fun u ok => Value.alike_plain ?_) operator.pos
    have plain := op.apply_plain w
    rwa [ok] at plain
  | binary op operator left right => exact fun v w v' w' hv hv' => h.applyBinary op operator hv hv'
  | assign name value => exact fun v w hv => h.assignTo name hv
  | step op name operator => exact h.stepOn op name operator
  | trigger token => exact h.triggerPlayer
  | zone kind access => exact h.activeZone kind
  | zoneOf kind player access => exact fun v w hv => named rfl kind access hv
  | call receiver method name =>
    refine ⟨fun v w hv => h.receiverOf name hv, ?_⟩
    rintro zone _ ⟨rfl, hz⟩
    exact h.callOn method name hz
  | callWith receiver method name arg =>
    cases method with
    | card m =>
      refine ⟨fun v w hv => h.receiverOf name hv, ?_⟩
      rintro zone _ v w ⟨rfl, hz⟩ hv
      exact (h.cardArgument name hv).bind fun c d same => h.card m name.pos hz same
    | pile m => exact fun v w hv => h.receiverOf name hv

theorem evaluate (limit : Option Nat) (level : Nat) (e : Expr)
    (named : e.namesPlayer = true → ∀ kind access {v w}, Value.Alike C H v w →
      Alike S L (Value.Alike C H) (numberedZone kind access v) (numberedZone kind access w)) :
    Alike S L (Value.Alike C H) (evaluate limit level e) (evaluate limit level e) :=
  evaluate_alike (fun node mem => h.operatesAlike node fun names =>
    named (Expr.namesPlayer_of_mem_nodes mem names)) level

theorem run (config : EvalConfig) (e : Expr)
    (named : e.namesPlayer = true → ∀ kind access {v w}, Value.Alike C H v w →
      Alike S L (Value.Alike C H) (numberedZone kind access v) (numberedZone kind access w)) :
    Alike S L (Value.Alike C H) (config.run e) (config.run e) := by
  rw [EvalConfig.run_eq, EvalConfig.run_eq]
  exact h.evaluate _ 0 e named

end IsScriptRelation

end Run

end CardEffects
