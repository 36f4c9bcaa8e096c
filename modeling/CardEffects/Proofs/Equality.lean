import CardEffects.Proofs.Causes
import CardEffects.Proofs.Doubles

/-!
# Equality in scripts

Two values are equal if the same is seen of them: of a number all but the sign of zero, of a card
list the cards that lie in its zone when it is compared, and of any other value the value. So
equality is an equivalence, but that a card list is compared with no other if the context does not
know them both.
-/

namespace CardEffects

inductive Sight where
  | number (x : Float)
  | text (s : String)
  | boolean (b : Bool)
  | card (c : CardId)
  | cards (cards : List CardId)
  | null

def Sight.kind : Sight → ValueKind
  | number _ => .number
  | text _ => .text
  | boolean _ => .boolean
  | card _ => .card
  | cards _ => .cardList
  | null => .null

namespace Value

def sight? (cards? : ZoneHandle → Option (List CardId)) : Value → Option Sight
  | number x => some (.number (Number.seen x))
  | text s => some (.text s)
  | boolean b => some (.boolean b)
  | card c => some (.card c)
  | cardList zone => (cards? zone).map .cards
  | null => some .null

variable {cards? : ZoneHandle → Option (List CardId)} {a b c : Value}

theorem kind_of_sight? {sight : Sight} (h : a.sight? cards? = some sight) :
    sight.kind = a.kind := by
  cases a with
  | cardList zone =>
    obtain ⟨cards, -, rfl⟩ := Option.map_eq_some_iff.mp h
    rfl
  | _ =>
    cases h
    rfl

def SeenAlike (cards? : ZoneHandle → Option (List CardId)) (a b : Value) : Prop :=
  a.sight? cards? ≠ none ∧ a.sight? cards? = b.sight? cards?

/-- Values of one kind are compared by what is seen of them, which takes that it is seen of both. -/
def Comparable (cards? : ZoneHandle → Option (List CardId)) (a b : Value) : Prop :=
  a.kind = b.kind → a.sight? cards? ≠ none ∧ b.sight? cards? ≠ none

theorem SeenAlike.symm (h : SeenAlike cards? a b) : SeenAlike cards? b a := ⟨h.2 ▸ h.1, h.2.symm⟩

theorem SeenAlike.trans (h : SeenAlike cards? a b) (h' : SeenAlike cards? b c) :
    SeenAlike cards? a c :=
  ⟨h.1, h.2.trans h'.2⟩

theorem SeenAlike.kind_eq (h : SeenAlike cards? a b) : a.kind = b.kind := by
  obtain ⟨sight, seen⟩ := Option.ne_none_iff_exists'.mp h.1
  rw [← kind_of_sight? seen, kind_of_sight? (h.2 ▸ seen)]

theorem SeenAlike.comparable (h : SeenAlike cards? a b) : Comparable cards? a b :=
  fun _ => ⟨h.1, h.symm.1⟩

theorem Comparable.symm (h : Comparable cards? a b) : Comparable cards? b a :=
  fun kinds => (h kinds.symm).symm

theorem Comparable.seenAlike_self (h : Comparable cards? a a) : SeenAlike cards? a a :=
  ⟨(h rfl).1, rfl⟩

theorem comparable_iff : Comparable cards? a b ↔ ∀ zone, ¬ Unknown cards? zone a b := by
  cases a with
  | cardList y =>
    cases b with
    | cardList z =>
      cases left : cards? y <;> cases right : cards? z <;>
        simp [Comparable, Unknown, sight?, left, right, kind]
    | _ => simp [Comparable, Unknown, kind]
  | _ => cases b <;> simp [Comparable, Unknown, sight?, kind]

theorem comparable_of_equal {same : Bool} (h : equal cards? a b = .ok same) :
    Comparable cards? a b := by
  refine comparable_iff.mpr fun zone unknown => ?_
  rw [equal_eq_error_iff.mpr ⟨zone, rfl, unknown⟩] at h
  cases h

theorem equal_of_kind_ne (h : a.kind ≠ b.kind) : equal cards? a b = .ok false := by
  cases a <;> cases b <;> first | rfl | exact absurd rfl h

theorem equal_of_known {y z : ZoneHandle} {l m : List CardId} (left : cards? y = some l)
    (right : cards? z = some m) : equal cards? (.cardList y) (.cardList z) = .ok (l == m) := by
  simp only [equal, knownCards, left, right]
  rfl

theorem exists_equal (h : Comparable cards? a b) :
    ∃ same, equal cards? a b = .ok same ∧ (same = true ↔ SeenAlike cards? a b) := by
  by_cases kinds : a.kind = b.kind
  · cases a with
    | number x =>
      cases b with
      | number y => exact ⟨_, rfl, Number.beq_or_isNaN_iff.trans (by simp [SeenAlike, sight?])⟩
      | _ => cases kinds
    | cardList y =>
      cases b with
      | cardList z =>
        obtain ⟨left, right⟩ := h rfl
        obtain ⟨_, left⟩ := Option.ne_none_iff_exists'.mp left
        obtain ⟨l, known, -⟩ := Option.map_eq_some_iff.mp left
        obtain ⟨_, right⟩ := Option.ne_none_iff_exists'.mp right
        obtain ⟨m, known', -⟩ := Option.map_eq_some_iff.mp right
        exact ⟨_, equal_of_known known known', by simp [SeenAlike, sight?, known, known']⟩
      | _ => cases kinds
    | _ =>
      cases b with
      | number | cardList => cases kinds
      | _ => exact ⟨_, rfl, by simp [same, SeenAlike, sight?]⟩
  · exact ⟨false, equal_of_kind_ne kinds, iff_of_false nofun fun seen => kinds seen.kind_eq⟩

theorem equal_eq_ok_iff {same : Bool} :
    equal cards? a b = .ok same ↔ Comparable cards? a b ∧ (same = true ↔ SeenAlike cards? a b) := by
  constructor
  · intro compared
    have comparable := comparable_of_equal compared
    obtain ⟨same', compared', seen⟩ := exists_equal comparable
    cases compared.symm.trans compared'
    exact ⟨comparable, seen⟩
  · rintro ⟨comparable, seen⟩
    obtain ⟨same', compared, seen'⟩ := exists_equal comparable
    rw [compared, Bool.eq_iff_iff.mpr (seen.trans seen'.symm)]

theorem equal_eq_true_iff : equal cards? a b = .ok true ↔ SeenAlike cards? a b :=
  equal_eq_ok_iff.trans ⟨fun h => h.2.mp rfl, fun seen => ⟨seen.comparable, iff_of_true rfl seen⟩⟩

theorem notEqual_apply (cards? : ZoneHandle → Option (List CardId)) (a b : Value) :
    BinaryOp.notEqual.apply cards? a b = BinaryOp.equal.apply cards? a b >>= UnaryOp.not.apply := by
  show (equal cards? a b).map _ = (equal cards? a b).map _ >>= _
  cases equal cards? a b <;> rfl

structure EqualityLaws (cards? : ZoneHandle → Option (List CardId)) : Prop where
  fails (a b : Value) (cause : Cause) : equal cards? a b = .error cause ↔
    ∃ y z, a = .cardList y ∧ b = .cardList z ∧ (cards? y = none ∧ cause = .unknownZone y ∨
      cards? y ≠ none ∧ cards? z = none ∧ cause = .unknownZone z)
  reflexive (a : Value) (same : Bool) : equal cards? a a = .ok same → same = true
  symmetric (a b : Value) (same : Bool) : equal cards? a b = .ok same → equal cards? b a = .ok same
  transitive (a b c : Value) : equal cards? a b = .ok true → equal cards? b c = .ok true →
    equal cards? a c = .ok true
  kinds (a b : Value) : a.kind ≠ b.kind → equal cards? a b = .ok false
  lists (y z : ZoneHandle) (l m : List CardId) : cards? y = some l → cards? z = some m →
    equal cards? (.cardList y) (.cardList z) = .ok (decide (l = m))
  negated (a b : Value) :
    BinaryOp.notEqual.apply cards? a b = BinaryOp.equal.apply cards? a b >>= UnaryOp.not.apply

theorem equalityLaws (cards? : ZoneHandle → Option (List CardId)) : EqualityLaws cards? where
  fails a b cause := by
    rw [equal_eq_error_iff]
    constructor
    · rintro ⟨zone, rfl, y, z, rfl, rfl, unknown⟩
      exact ⟨y, z, rfl, rfl, by simpa using unknown⟩
    · rintro ⟨y, z, rfl, rfl, ⟨unknown, rfl⟩ | ⟨known, unknown, rfl⟩⟩
      · exact ⟨y, rfl, y, z, rfl, rfl, .inl ⟨unknown, rfl⟩⟩
      · exact ⟨z, rfl, y, z, rfl, rfl, .inr ⟨known, unknown, rfl⟩⟩
  reflexive a same compared := by
    obtain ⟨comparable, seen⟩ := equal_eq_ok_iff.mp compared
    exact seen.mpr comparable.seenAlike_self
  symmetric a b same compared := by
    obtain ⟨comparable, seen⟩ := equal_eq_ok_iff.mp compared
    exact equal_eq_ok_iff.mpr ⟨comparable.symm, seen.trans ⟨.symm, .symm⟩⟩
  transitive a b c left right := by
    rw [equal_eq_true_iff] at left right ⊢
    exact left.trans right
  kinds a b := equal_of_kind_ne
  lists y z l m left right := by rw [equal_of_known left right, beq_eq_decide]
  negated := notEqual_apply cards?

end Value

open Run

theorem Run.located_bind {χ α β : Type} (pos : SourcePos) (r : Except Cause α)
    (f : α → Except Cause β) :
    located (χ := χ) pos (r >>= f) = located pos r >>= fun a => located pos (f a) := by
  cases r with
  | ok a => exact (pure_bind a fun a => located pos (f a)).symm
  | error cause => rfl

variable {χ : Type} [ScriptContext χ]

theorem Run.applyBinary_notEqual (operator : Token) (a b : Value) :
    applyBinary (χ := χ) .notEqual operator a b =
      applyBinary .equal operator a b >>= fun v => located operator.pos (UnaryOp.not.apply v) := by
  simp only [applyBinary, Value.notEqual_apply, located_bind, bind_bind]

theorem evaluate_notEqual (limit : Option Nat) (level : Nat) (operator : Token) (l r : Expr) :
    evaluate (χ := χ) limit level (.binary .notEqual operator l r) =
      evaluate limit level (.binary .equal operator l r) >>= fun v =>
        located operator.pos (UnaryOp.not.apply v) := by
  simp only [evaluate, applyBinary_notEqual, bind_bind]
  rfl

theorem evaluate_binary_of_done {limit : Option Nat} {level : Nat} {op : BinaryOp}
    {operator : Token} {l r : Expr} {s t u : Session χ} {a b : Value} {events later : List Event}
    (left : evaluate limit (level + 1) l s = ⟨.done a, t, events⟩)
    (right : evaluate limit (level + 1) r t = ⟨.done b, u, later⟩) :
    evaluate limit level (.binary op operator l r) s =
      match op.apply (ScriptContext.cards? u.context) a b with
      | .ok v => ⟨.done v, u, events ++ later⟩
      | .error cause => ⟨.failed ⟨cause, operator.pos⟩, u, events ++ later⟩ := by
  rw [evaluate, checkLevel_of_done left, pure_bind, bind_of_done left, bind_of_done right]
  simp only [applyBinary, getContext_bind]
  cases op.apply (ScriptContext.cards? u.context) a b <;> simp [located, pure_apply, fail]

theorem evaluate_equal_of_done {limit : Option Nat} {level : Nat} {operator : Token} {l r : Expr}
    {s t u : Session χ} {a b : Value} {events later : List Event} {same : Bool}
    (left : evaluate limit (level + 1) l s = ⟨.done a, t, events⟩)
    (right : evaluate limit (level + 1) r t = ⟨.done b, u, later⟩)
    (compared : Value.equal (ScriptContext.cards? u.context) a b = .ok same) :
    evaluate limit level (.binary .equal operator l r) s =
      ⟨.done (.boolean same), u, events ++ later⟩ := by
  rw [evaluate_binary_of_done left right, BinaryOp.apply, compared]
  rfl

theorem evaluate_equal_of_error {limit : Option Nat} {level : Nat} {operator : Token} {l r : Expr}
    {s t u : Session χ} {a b : Value} {events later : List Event} {cause : Cause}
    (left : evaluate limit (level + 1) l s = ⟨.done a, t, events⟩)
    (right : evaluate limit (level + 1) r t = ⟨.done b, u, later⟩)
    (unknown : Value.equal (ScriptContext.cards? u.context) a b = .error cause) :
    evaluate limit level (.binary .equal operator l r) s
      = ⟨.failed ⟨cause, operator.pos⟩, u, events ++ later⟩ := by
  rw [evaluate_binary_of_done left right, BinaryOp.apply, unknown]
  rfl

/-- Equality fails for two card lists that are not both known, and for nothing else; where it is
defined it is an equivalence, tells kinds apart and compares card lists by the cards that lie in
them. `!=` is its negation, and fails where it fails. In an expression the values are compared as
the context stands once both operands were run, so a zone that both operands list is equal to
itself, whatever they did to it. -/
theorem equality_is_equivalence :
    (∀ context : χ, Value.EqualityLaws (ScriptContext.cards? context)) ∧
    ∀ (limit : Option Nat) (level : Nat) (operator : Token) (l r : Expr),
      evaluate (χ := χ) limit level (.binary .notEqual operator l r) =
        (evaluate limit level (.binary .equal operator l r) >>= fun v =>
          located operator.pos (UnaryOp.not.apply v)) ∧
      ∀ (s t u : Session χ) a b events later,
        evaluate limit (level + 1) l s = ⟨.done a, t, events⟩ →
        evaluate limit (level + 1) r t = ⟨.done b, u, later⟩ →
        (∀ same, Value.equal (ScriptContext.cards? u.context) a b = .ok same →
          evaluate limit level (.binary .equal operator l r) s
            = ⟨.done (.boolean same), u, events ++ later⟩) ∧
        (∀ cause, Value.equal (ScriptContext.cards? u.context) a b = .error cause →
          evaluate limit level (.binary .equal operator l r) s
            = ⟨.failed ⟨cause, operator.pos⟩, u, events ++ later⟩) ∧
        ∀ zone, a = .cardList zone → b = .cardList zone →
          ScriptContext.cards? u.context zone ≠ none →
          evaluate limit level (.binary .equal operator l r) s
            = ⟨.done (.boolean true), u, events ++ later⟩ := by
  refine ⟨fun context => Value.equalityLaws _, fun limit level operator l r =>
    ⟨evaluate_notEqual limit level operator l r, fun s t u a b events later left right =>
      ⟨fun same => evaluate_equal_of_done left right,
        fun cause => evaluate_equal_of_error left right, ?_⟩⟩⟩
  rintro zone rfl rfl known
  obtain ⟨cards, known⟩ := Option.ne_none_iff_exists'.mp known
  refine evaluate_equal_of_done left right ?_
  rw [Value.equal_of_known known known, BEq.refl]

theorem equality_is_equivalence_of_changed_list :
    let deck := MatchState.handleOf .deck ⟨0⟩
    let hand := MatchState.handleOf .hand ⟨0⟩
    let zones := ((MatchState.layout 1).setCards deck [⟨2⟩]).setCards hand [⟨1⟩]
    let dealt : MatchState := ⟨1, ⟨0⟩, zones, ∅, .ofSeed 0, ⟨3⟩⟩
    let after := (dealt.withCards hand []).withCards deck [⟨1⟩, ⟨2⟩]
    let s : Session MatchState := ⟨.empty, dealt⟩
    let pushed := Expr.ofCallWith (.ofZone .deck) (.card .push)
      (.ofCall (.ofZone .hand) (.pile .pop))
    let cards? := ScriptContext.cards? after
    evaluate (some 4) 0 (.ofBinary .equal (.ofZone .deck) pushed) s
        = ⟨.done (.boolean true), ⟨.empty, after⟩,
          [.changed hand (.popped (some ⟨1⟩)), .changed deck (.pushed ⟨1⟩)]⟩ ∧
      Value.equal cards? (.cardList hand) (.cardList deck) = .ok false ∧
      Value.equal cards? (.cardList deck) (.cardList hand) = .ok false ∧
      Value.equal cards? (.cardList ⟨7⟩) (.cardList ⟨8⟩) = .error (.unknownZone ⟨7⟩) ∧
      Value.equal cards? (.cardList ⟨7⟩) .null = .ok false := by
  intro deck hand zones dealt after s pushed cards?
  obtain ⟨laws, expressions⟩ := equality_is_equivalence (χ := MatchState)
  have emptied : cards? hand = some [] := by decide +kernel
  have filled : cards? deck = some [⟨1⟩, ⟨2⟩] := by decide +kernel
  have unknown : cards? ⟨7⟩ = none := by decide +kernel
  have apart : Value.equal cards? (.cardList hand) (.cardList deck) = .ok false :=
    (laws after).lists hand deck [] [⟨1⟩, ⟨2⟩] emptied filled
  have named : Value.equal cards? (.cardList ⟨7⟩) (.cardList ⟨8⟩) = .error (.unknownZone ⟨7⟩) :=
    ((laws after).fails _ _ _).mpr ⟨⟨7⟩, ⟨8⟩, rfl, rfl, .inl ⟨unknown, rfl⟩⟩
  have same :=
    ((expressions (some 4) 0 (.synthetic "==") (.ofZone .deck) pushed).2 s s ⟨.empty, after⟩
    _ _ _ _ rfl rfl).2.2 deck rfl rfl (Option.ne_none_iff_exists'.mpr ⟨_, filled⟩)
  exact ⟨same, apart, (laws after).symmetric _ _ _ apart, named, (laws after).kinds _ _ nofun⟩

end CardEffects
