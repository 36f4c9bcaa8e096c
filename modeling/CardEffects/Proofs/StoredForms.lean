import CardEffects.Proofs.Spelling

/-!
# Exact stored forms

Expressions, effect scripts and stores of zones are read back as they were written, and a plain
value is read as one of them just if it is a spelling of what is written for it.
-/

namespace CardEffects

open Json (Reads FieldReads Spelling SpellingFields optional?)

theorem Json.spelling_leaf {written j : Json} : Spelling .leaf written j ↔ j = written := by
  cases written <;> rfl

theorem Json.spelling_str {shape : Shape} {s : String} {j : Json} :
    Spelling shape (.str s) j ↔ j = .str s := by
  cases shape <;> rfl

theorem Json.natBelow?_eq_some {bound n : Nat} {j : Json} :
    j.natBelow? bound = some n ↔ n < bound ∧ j = .int n := by
  unfold natBelow?
  split
  · split
    · simp only [Option.some.injEq, Json.int.injEq, Int.ofNat_eq_natCast, Int.natCast_inj]
      omega
    · simp only [reduceCtorEq, false_iff, Json.int.injEq, Int.ofNat_eq_natCast, Int.natCast_inj]
      omega
  · rename_i other
    simp only [reduceCtorEq, false_iff]
    rintro ⟨-, rfl⟩
    exact other n rfl

theorem reads_str (s : String) : Reads .leaf Json.str? (.str s) s := by
  intro j _
  rw [Json.spelling_leaf]
  cases j <;> simp [Json.str?]

theorem reads_uint32 (n : UInt32) : Reads .leaf Json.uint32? (.ofUInt32 n) n := by
  intro j _
  rw [Json.spelling_leaf]
  refine ⟨fun h => ?_, fun h => h ▸ Json.uint32?_ofUInt32 n⟩
  obtain ⟨m, below, rfl⟩ := Option.map_eq_some_iff.mp h
  obtain ⟨lt, rfl⟩ := Json.natBelow?_eq_some.mp below
  rw [Json.ofUInt32, UInt32.toNat_ofNat', Nat.mod_eq_of_lt lt]

theorem reads_uint8 (n : UInt8) : Reads .leaf Json.uint8? (.ofUInt8 n) n := by
  intro j _
  rw [Json.spelling_leaf]
  refine ⟨fun h => ?_, fun h => h ▸ Json.uint8?_ofUInt8 n⟩
  obtain ⟨m, below, rfl⟩ := Option.map_eq_some_iff.mp h
  obtain ⟨lt, rfl⟩ := Json.natBelow?_eq_some.mp below
  rw [Json.ofUInt8, UInt8.toNat_ofNat', Nat.mod_eq_of_lt lt]

theorem Json.Reads.map {α β : Type} {shape : Shape} {read : Json → Option α} {written : Json}
    {x : α} (h : Reads shape read written x) {f : α → β} (hf : Function.Injective f) :
    Reads shape (fun j => (read j).map f) written (f x) := by
  intro j plain
  rw [← h j plain]
  simp [Option.map_eq_some_iff, hf.eq_iff]

theorem reads_name {α : Type} {ofName? : String → Option α} {name : α → String}
    (back : ∀ x, ofName? (name x) = some x) (sound : ∀ s x, ofName? s = some x → name x = s)
    (x : α) :
    Reads .name (fun j => j.name? >>= ofName?) (.str (name x)) x := by
  intro j plain
  rw [Json.spelling_str]
  cases j with
  | str s =>
    refine ⟨fun h => ?_, fun h => ?_⟩
    · rw [sound s x h]
    · cases h
      exact back x
  | obj fields => cases plain
  | _ => simp [Json.name?]

theorem reads_binaryOp (op : BinaryOp) : Reads .name BinaryOp.ofJson? (.str op.name) op :=
  reads_name BinaryOp.ofName?_name (fun _ _ h => by simpa using List.find?_some h) op

theorem reads_unaryOp (op : UnaryOp) : Reads .name UnaryOp.ofJson? (.str op.name) op :=
  reads_name UnaryOp.ofName?_name (fun _ _ h => by simpa using List.find?_some h) op

theorem reads_stepOp (op : StepOp) : Reads .name StepOp.ofJson? (.str op.name) op :=
  reads_name StepOp.ofName?_name (fun _ _ h => by simpa using List.find?_some h) op

theorem reads_listMethod (method : ListMethod) :
    Reads .name ListMethod.ofJson? (.str method.name) method :=
  reads_name ListMethod.ofName?_name (fun _ _ h => by simpa using List.find?_some h) method

theorem reads_zoneKind (kind : ZoneKind) : Reads .name ZoneKind.ofJson? (.str kind.name) kind :=
  reads_name ZoneKind.ofName?_name (fun _ _ h => by simpa using List.find?_some h) kind

theorem SourcePos.ofJson?_eq_some {j : Json} {p : SourcePos} : ofJson? j = some p ↔
    ∃ record, j.record? ["line", "column"] = some record ∧
      FieldReads record "line" Json.uint32? p.line ∧
      FieldReads record "column" Json.uint32? p.column := by
  simp only [ofJson?, FieldReads, Option.bind_eq_bind, Option.bind_eq_some_iff, Option.pure_def,
    Option.some.injEq]
  constructor
  · rintro ⟨record, known, v, line, n, read, w, column, m, read', rfl⟩
    exact ⟨record, known, ⟨v, line, read⟩, w, column, read'⟩
  · rintro ⟨record, known, ⟨v, line, read⟩, w, column, read'⟩
    exact ⟨record, known, v, line, _, read, w, column, _, read', rfl⟩

theorem reads_place (p : SourcePos) : Reads (.record .place) SourcePos.ofJson? p.toJson p := by
  intro j plain
  rw [SourcePos.ofJson?_eq_some, SourcePos.toJson, Spelling,
    (reads_uint32 p.line).required plain rfl rfl, (reads_uint32 p.column).required plain rfl rfl,
    Json.record?_of_plain plain]
  cases j.isObj <;> simp [SpellingFields]

theorem SourcePos.toJson_inj {p q : SourcePos} : p.toJson = q.toJson ↔ p = q := by
  refine ⟨fun same => ?_, congrArg _⟩
  obtain ⟨line, column⟩ := p
  obtain ⟨line', column'⟩ := q
  simp only [toJson, Json.ofUInt32, Json.obj.injEq, List.cons.injEq, Prod.mk.injEq, Json.int.injEq,
    Int.natCast_inj, UInt32.toNat_inj, true_and, and_true] at same
  rw [same.1, same.2]

theorem Token.ofJson?_eq_some {j : Json} {t : Token} : ofJson? j = some t ↔
    ∃ record, j.record? ["lexeme", "pos"] = some record ∧
      FieldReads record "lexeme" Json.str? t.lexeme ∧
      (FieldReads record "pos" SourcePos.ofJson? t.pos ∨ record.field? "pos" = none ∧
        .zero = t.pos) := by
  simp only [ofJson?, FieldReads, Option.bind_eq_bind, Option.bind_eq_some_iff, Option.pure_def]
  refine exists_congr fun record => and_congr_right fun _ => ?_
  obtain ⟨lexeme, pos⟩ := t
  cases record.field? "pos" with
  | none =>
    simp only [Option.some.injEq, Token.mk.injEq, reduceCtorEq, false_and, exists_false, true_and,
      false_or]
    constructor
    · rintro ⟨v, there, s, read, rfl, rfl⟩
      exact ⟨⟨v, there, read⟩, rfl⟩
    · rintro ⟨⟨v, there, read⟩, rfl⟩
      exact ⟨v, there, lexeme, read, rfl, rfl⟩
  | some w =>
    simp only [Option.bind_eq_some_iff, Option.some.injEq, Token.mk.injEq, reduceCtorEq, false_and,
      or_false]
    constructor
    · rintro ⟨v, there, s, read, p, place, rfl, rfl⟩
      exact ⟨⟨v, there, read⟩, w, rfl, place⟩
    · rintro ⟨⟨v, there, read⟩, _, rfl, place⟩
      exact ⟨v, there, lexeme, read, pos, place, rfl, rfl⟩

theorem reads_token (t : Token) : Reads (.record .token) Token.ofJson? t.toJson t := by
  intro j plain
  rw [Token.ofJson?_eq_some, Token.toJson, Spelling, (reads_str t.lexeme).required plain rfl rfl,
    (reads_place t.pos).defaulted plain rfl rfl, Json.record?_of_plain plain, SourcePos.toJson_inj]
  cases j.isObj <;> simp [SpellingFields]

theorem Token.toJson_ne_null (t : Token) : t.toJson ≠ .null := by
  intro null
  cases null

theorem reads_literal (literal : Option Token) :
    Reads (.record .token) literalOfJson? (.ofOption Token.toJson literal) literal :=
  Json.Reads.nullable (fun t _ => reads_token t) Token.toJson_ne_null

namespace Expr

def nodeName : Expr → String
  | number _ => "Number"
  | text _ => "Text"
  | boolean _ => "Boolean"
  | var _ => "Variable"
  | group _ => "Group"
  | unary _ _ _ => "Unary"
  | binary _ _ _ _ => "Binary"
  | assign _ _ => "Assign"
  | step _ _ _ => "Step"
  | trigger _ => "TriggerPlayer"
  | zone _ _ | zoneOf _ _ _ => "ZoneAccess"
  | call _ _ _ | callWith _ _ _ _ => "MethodCall"

/-- What the node holds is read from a value, the parts from the fields of their names. -/
def HeldBy (body : Json) : Expr → Prop
  | number literal | text literal | boolean literal => literalOfJson? body = some literal
  | var token | trigger token => Token.ofJson? body = some token
  | group inner => ofJson? body = some inner
  | unary op operator operand =>
    FieldReads body "op" UnaryOp.ofJson? op ∧ FieldReads body "operator" Token.ofJson? operator ∧
      FieldReads body "operand" ofJson? operand
  | binary op operator left right =>
    FieldReads body "op" BinaryOp.ofJson? op ∧ FieldReads body "operator" Token.ofJson? operator ∧
      FieldReads body "left" ofJson? left ∧ FieldReads body "right" ofJson? right
  | assign name value =>
    FieldReads body "name" Token.ofJson? name ∧ FieldReads body "value" ofJson? value
  | step op name operator =>
    FieldReads body "op" StepOp.ofJson? op ∧ FieldReads body "name" Token.ofJson? name ∧
      FieldReads body "operator" Token.ofJson? operator
  | zone kind access =>
    FieldReads body "zone" ZoneKind.ofJson? kind ∧
    optional? ofJson? (body.field? "player") = some none ∧
      FieldReads body "access" Token.ofJson? access
  | zoneOf kind player access =>
    FieldReads body "zone" ZoneKind.ofJson? kind ∧
      optional? ofJson? (body.field? "player") = some (some player) ∧
      FieldReads body "access" Token.ofJson? access
  | call receiver method name =>
    FieldReads body "receiver" ofJson? receiver ∧
    FieldReads body "method" ListMethod.ofJson? method ∧
      FieldReads body "name" Token.ofJson? name ∧ optional? ofJson? (body.field? "arg") = some none
  | callWith receiver method name arg =>
    FieldReads body "receiver" ofJson? receiver ∧
    FieldReads body "method" ListMethod.ofJson? method ∧
      FieldReads body "name" Token.ofJson? name ∧
      optional? ofJson? (body.field? "arg") = some (some arg)

theorem part?_eq_some {j : Json} {name : String} {part : { v : Json // sizeOf v < sizeOf j }} :
    j.part? name = some part ↔ j.field? name = some part.val := by
  unfold Json.part?
  split
  · rename_i v found
    simp only [found, Option.some.injEq, Subtype.ext_iff]
  · rename_i none
    simp [none]

theorem part?_eq_none {j : Json} {name : String} : j.part? name = none ↔ j.field? name = none := by
  unfold Json.part?
  split
  · rename_i v found
    simp [found]
  · rename_i none
    simp [none]

theorem part_eq_some {j : Json} {name : String} {bare : Expr} {whole : Expr → Expr} {e : Expr} :
    (match j.part? name with
      | none | some ⟨.null, _⟩ => pure bare
      | some ⟨part, _⟩ => (ofJson? part).bind fun e => pure (whole e)) = some e ↔
      optional? ofJson? (j.field? name) = some none ∧ bare = e ∨
        ∃ inner, optional? ofJson? (j.field? name) = some (some inner) ∧ whole inner = e := by
  split
  · rename_i absent
    rw [part?_eq_none.mp absent]
    simp [optional?]
  · rename_i null
    rw [part?_eq_some.mp null]
    simp [optional?]
  · rename_i part _ present there
    rw [part?_eq_some.mp there, Json.optional?_of_ne_null ofJson? present]
    simp [Option.bind_eq_some_iff, Option.map_eq_some_iff]

theorem held_of_ofJson? {j : Json} {e : Expr} (h : ofJson? j = some e) :
    ∃ body, j = .obj [(e.nodeName, body)] ∧ e.HeldBy body := by
  unfold ofJson? at h
  split at h
  case h_1 | h_2 | h_3 | h_4 | h_5 | h_10 =>
    obtain ⟨_, read, rfl⟩ := Option.map_eq_some_iff.mp h
    exact ⟨_, rfl, read⟩
  case h_13 => cases h
  -- the nodes with several parts: what was read from each field, in the order of the reader
  all_goals
    simp only [Option.bind_eq_bind, Option.bind_eq_some_iff, Option.pure_def, Option.some.injEq,
      part?_eq_some] at h
  case h_6 =>
    obtain ⟨a, ha, op, read, b, hb, operator, read', c, hc, operand, read'', rfl⟩ := h
    exact ⟨_, rfl, ⟨a, ha, read⟩, ⟨b, hb, read'⟩, ⟨c, hc, read''⟩⟩
  case h_7 =>
    obtain ⟨a, ha, op, read, b, hb, operator, read', c, hc, d, hd, left, readl, right, readr,
      rfl⟩ := h
    exact ⟨_, rfl, ⟨a, ha, read⟩, ⟨b, hb, read'⟩, ⟨c, hc, readl⟩, ⟨d, hd, readr⟩⟩
  case h_8 =>
    obtain ⟨a, ha, name, read, b, hb, value, read', rfl⟩ := h
    exact ⟨_, rfl, ⟨a, ha, read⟩, ⟨b, hb, read'⟩⟩
  case h_9 =>
    obtain ⟨a, ha, op, read, b, hb, name, read', c, hc, operator, read'', rfl⟩ := h
    exact ⟨_, rfl, ⟨a, ha, read⟩, ⟨b, hb, read'⟩, ⟨c, hc, read''⟩⟩
  case h_11 body =>
    obtain ⟨a, ha, kind, read, b, hb, access, read', h⟩ := h
    obtain ⟨player, rfl⟩ | ⟨inner, player, rfl⟩ := part_eq_some.mp h
    · exact ⟨_, rfl, ⟨a, ha, read⟩, player, ⟨b, hb, read'⟩⟩
    · exact ⟨_, rfl, ⟨a, ha, read⟩, player, ⟨b, hb, read'⟩⟩
  case h_12 body =>
    obtain ⟨a, ha, receiver, read, b, hb, method, read', c, hc, name, read'', h⟩ := h
    obtain ⟨arg, rfl⟩ | ⟨inner, arg, rfl⟩ := part_eq_some.mp h
    · exact ⟨_, rfl, ⟨a, ha, read⟩, ⟨b, hb, read'⟩, ⟨c, hc, read''⟩, arg⟩
    · exact ⟨_, rfl, ⟨a, ha, read⟩, ⟨b, hb, read'⟩, ⟨c, hc, read''⟩, arg⟩

theorem HeldBy.ofJson? {body : Json} {e : Expr} (h : e.HeldBy body) :
    ofJson? (.obj [(e.nodeName, body)]) = some e := by
  unfold Expr.ofJson?
  cases e with
  | number _ | text _ | boolean _ | var _ | group _ | trigger _ =>
    exact Option.map_eq_some_iff.mpr ⟨_, h, rfl⟩
  | unary op operator operand =>
    obtain ⟨⟨a, ha, op⟩, ⟨b, hb, operator⟩, ⟨c, hc, operand⟩⟩ := h
    simp only [nodeName, Option.bind_eq_bind, Option.bind_eq_some_iff, part?_eq_some]
    exact ⟨a, ha, _, op, b, hb, _, operator, ⟨c, Json.sizeOf_field?_lt hc⟩, hc, _, operand, rfl⟩
  | binary op operator left right =>
    obtain ⟨⟨a, ha, op⟩, ⟨b, hb, operator⟩, ⟨c, hc, left⟩, ⟨d, hd, right⟩⟩ := h
    simp only [nodeName, Option.bind_eq_bind, Option.bind_eq_some_iff, part?_eq_some]
    exact ⟨a, ha, _, op, b, hb, _, operator, ⟨c, Json.sizeOf_field?_lt hc⟩, hc,
      ⟨d, Json.sizeOf_field?_lt hd⟩, hd, _, left, _, right, rfl⟩
  | assign name value =>
    obtain ⟨⟨a, ha, name⟩, ⟨b, hb, value⟩⟩ := h
    simp only [nodeName, Option.bind_eq_bind, Option.bind_eq_some_iff, part?_eq_some]
    exact ⟨a, ha, _, name, ⟨b, Json.sizeOf_field?_lt hb⟩, hb, _, value, rfl⟩
  | step op name operator =>
    obtain ⟨⟨a, ha, op⟩, ⟨b, hb, name⟩, ⟨c, hc, operator⟩⟩ := h
    simp only [nodeName, Option.bind_eq_bind, Option.bind_eq_some_iff]
    exact ⟨a, ha, _, op, b, hb, _, name, c, hc, _, operator, rfl⟩
  | zone kind access =>
    obtain ⟨⟨a, ha, kind⟩, player, ⟨b, hb, access⟩⟩ := h
    simp only [nodeName, Option.bind_eq_bind, Option.bind_eq_some_iff]
    exact ⟨a, ha, _, kind, b, hb, _, access, part_eq_some.mpr (.inl ⟨player, rfl⟩)⟩
  | zoneOf kind player access =>
    obtain ⟨⟨a, ha, kind⟩, player, ⟨b, hb, access⟩⟩ := h
    simp only [nodeName, Option.bind_eq_bind, Option.bind_eq_some_iff]
    exact ⟨a, ha, _, kind, b, hb, _, access, part_eq_some.mpr (.inr ⟨_, player, rfl⟩)⟩
  | call receiver method name =>
    obtain ⟨⟨a, ha, receiver⟩, ⟨b, hb, method⟩, ⟨c, hc, name⟩, arg⟩ := h
    simp only [nodeName, Option.bind_eq_bind, Option.bind_eq_some_iff, part?_eq_some]
    exact ⟨⟨a, Json.sizeOf_field?_lt ha⟩, ha, _, receiver, b, hb, _, method, c, hc, _, name,
      part_eq_some.mpr (.inl ⟨arg, rfl⟩)⟩
  | callWith receiver method name arg =>
    obtain ⟨⟨a, ha, receiver⟩, ⟨b, hb, method⟩, ⟨c, hc, name⟩, arg⟩ := h
    simp only [nodeName, Option.bind_eq_bind, Option.bind_eq_some_iff, part?_eq_some]
    exact ⟨⟨a, Json.sizeOf_field?_lt ha⟩, ha, _, receiver, b, hb, _, method, c, hc, _, name,
      part_eq_some.mpr (.inr ⟨_, arg, rfl⟩)⟩

theorem ofJson?_eq_some {j : Json} {e : Expr} :
    ofJson? j = some e ↔ ∃ body, j = .obj [(e.nodeName, body)] ∧ e.HeldBy body := by
  refine ⟨held_of_ofJson?, ?_⟩
  rintro ⟨body, rfl, held⟩
  exact held.ofJson?

theorem toJson_ne_null (e : Expr) : e.toJson ≠ .null := by cases e <;> nofun

theorem reads_node {shape : Shape} {written : Json} {e : Expr}
    (found : Shape.nodes.lookup e.nodeName = some shape)
    (h : ∀ body, body.plain shape = true → (e.HeldBy body ↔ Spelling shape written body)) :
    Reads .node ofJson? (.obj [(e.nodeName, written)]) e := by
  intro j plain
  have inside : Shape.inNode e.nodeName = shape := by
    simp only [Shape.inNode, found, Option.getD_some]
  rw [ofJson?_eq_some, Json.spelling_node, inside]
  refine exists_congr fun body => and_congr_right fun same => h body ?_
  rw [same] at plain
  exact Json.plain_inNode plain found

section

variable {r : RecordKind} {body : Json} {name : String} (plain : body.plain (.record r) = true)
  (found : r.fields.lookup name = some .node) (absent : r.absent? name = some .null)
  (rest : List (String × Json))
include plain found absent

theorem spelling_missing : SpellingFields r ((name, .null) :: rest) body ↔
    optional? ofJson? (body.field? name) = some none ∧ SpellingFields r rest body :=
  Json.Reads.optional (o := none) nofun toJson_ne_null plain found absent

theorem spelling_present {e : Expr} (h : Reads .node ofJson? e.toJson e) :
    SpellingFields r ((name, e.toJson) :: rest) body ↔
      optional? ofJson? (body.field? name) = some (some e) ∧ SpellingFields r rest body :=
  Json.Reads.optional (o := some e) (fun _ same => Option.some.inj same ▸ h) toJson_ne_null plain
    found absent

end

theorem reads_expr (e : Expr) : Reads .node ofJson? e.toJson e := by
  induction e with
  | number literal => exact reads_node rfl (reads_literal literal)
  | text literal => exact reads_node rfl (reads_literal literal)
  | boolean literal => exact reads_node rfl (reads_literal literal)
  | var name => exact reads_node rfl (reads_token name)
  | group inner ih => exact reads_node rfl ih
  | unary op operator operand ih =>
    refine reads_node rfl fun body plain => ?_
    rw [Json.spelling_record, (reads_unaryOp op).required plain rfl rfl,
      (reads_token operator).required plain rfl rfl, ih.required plain rfl rfl]
    constructor
    · rintro ⟨op, operator, operand⟩
      exact ⟨op.isObj, op, operator, operand, trivial⟩
    · rintro ⟨-, op, operator, operand, -⟩
      exact ⟨op, operator, operand⟩
  | binary op operator left right ihl ihr =>
    refine reads_node rfl fun body plain => ?_
    rw [Json.spelling_record, (reads_binaryOp op).required plain rfl rfl,
      (reads_token operator).required plain rfl rfl, ihl.required plain rfl rfl,
      ihr.required plain rfl rfl]
    constructor
    · rintro ⟨op, operator, left, right⟩
      exact ⟨op.isObj, op, operator, left, right, trivial⟩
    · rintro ⟨-, op, operator, left, right, -⟩
      exact ⟨op, operator, left, right⟩
  | assign name value ih =>
    refine reads_node rfl fun body plain => ?_
    rw [Json.spelling_record, (reads_token name).required plain rfl rfl, ih.required plain rfl rfl]
    constructor
    · rintro ⟨name, value⟩
      exact ⟨name.isObj, name, value, trivial⟩
    · rintro ⟨-, name, value, -⟩
      exact ⟨name, value⟩
  | step op name operator =>
    refine reads_node rfl fun body plain => ?_
    rw [Json.spelling_record, (reads_stepOp op).required plain rfl rfl,
      (reads_token name).required plain rfl rfl, (reads_token operator).required plain rfl rfl]
    constructor
    · rintro ⟨op, name, operator⟩
      exact ⟨op.isObj, op, name, operator, trivial⟩
    · rintro ⟨-, op, name, operator, -⟩
      exact ⟨op, name, operator⟩
  | trigger token => exact reads_node rfl (reads_token token)
  | zone kind access =>
    refine reads_node rfl fun body plain => ?_
    rw [Json.spelling_record, (reads_zoneKind kind).required plain rfl rfl,
      spelling_missing plain rfl rfl, (reads_token access).required plain rfl rfl]
    constructor
    · rintro ⟨kind, player, access⟩
      exact ⟨kind.isObj, kind, player, access, trivial⟩
    · rintro ⟨-, kind, player, access, -⟩
      exact ⟨kind, player, access⟩
  | zoneOf kind player access ih =>
    refine reads_node rfl fun body plain => ?_
    rw [Json.spelling_record, (reads_zoneKind kind).required plain rfl rfl,
      spelling_present plain rfl rfl _ ih, (reads_token access).required plain rfl rfl]
    constructor
    · rintro ⟨kind, player, access⟩
      exact ⟨kind.isObj, kind, player, access, trivial⟩
    · rintro ⟨-, kind, player, access, -⟩
      exact ⟨kind, player, access⟩
  | call receiver method name ih =>
    refine reads_node rfl fun body plain => ?_
    rw [Json.spelling_record, ih.required plain rfl rfl,
      (reads_listMethod method).required plain rfl rfl, (reads_token name).required plain rfl rfl,
      spelling_missing plain rfl rfl]
    constructor
    · rintro ⟨receiver, method, name, arg⟩
      exact ⟨name.isObj, receiver, method, name, arg, trivial⟩
    · rintro ⟨-, receiver, method, name, arg, -⟩
      exact ⟨receiver, method, name, arg⟩
  | callWith receiver method name arg ihr iha =>
    refine reads_node rfl fun body plain => ?_
    rw [Json.spelling_record, ihr.required plain rfl rfl,
      (reads_listMethod method).required plain rfl rfl, (reads_token name).required plain rfl rfl,
      spelling_present plain rfl rfl _ iha]
    constructor
    · rintro ⟨receiver, method, name, arg⟩
      exact ⟨name.isObj, receiver, method, name, arg, trivial⟩
    · rintro ⟨-, receiver, method, name, arg, -⟩
      exact ⟨receiver, method, name, arg⟩

end Expr

theorem EffectScript.ofJson?_eq_some {j : Json} {script : EffectScript} : ofJson? j = some script ↔
    ∃ record, j.record? ["name", "body"] = some record ∧
      FieldReads record "name" Json.str? script.name ∧
      FieldReads record "body" (fun v => v.arr? >>= (·.mapM Expr.ofJson?)) script.body := by
  simp only [ofJson?, FieldReads, Option.bind_eq_bind, Option.bind_eq_some_iff, Option.pure_def,
    Option.some.injEq]
  constructor
  · rintro ⟨record, known, v, hv, name, read, w, hw, items, list, body, each, rfl⟩
    exact ⟨record, known, ⟨v, hv, read⟩, w, hw, items, list, each⟩
  · rintro ⟨record, known, ⟨v, hv, read⟩, w, hw, items, list, each⟩
    exact ⟨record, known, v, hv, _, read, w, hw, items, list, _, each, rfl⟩

theorem reads_script (script : EffectScript) :
    Reads (.record .script) EffectScript.ofJson? script.toJson script := by
  intro j plain
  rw [EffectScript.ofJson?_eq_some, EffectScript.toJson, Spelling,
    (reads_str script.name).required plain rfl rfl,
    (Json.reads_list fun e _ => Expr.reads_expr e).required plain rfl rfl,
    Json.record?_of_plain plain]
  cases j.isObj <;> simp [SpellingFields]

theorem PlayerId.toJson_ne_null (p : PlayerId) : p.toJson ≠ .null := by
  intro null
  cases null

theorem reads_owner (p : PlayerId) : Reads .leaf PlayerId.ofJson? p.toJson p := by
  have injective : Function.Injective PlayerId.mk := fun _ _ same => congrArg PlayerId.index same
  exact (reads_uint8 p.index).map injective

theorem reads_card (c : CardId) : Reads .leaf CardId.ofJson? c.toJson c := by
  have injective : Function.Injective CardId.mk := fun _ _ same => congrArg CardId.raw same
  exact (reads_uint32 c.raw).map injective

theorem Zone.ofJson?_eq_some {j : Json} {zone : Zone} : ofJson? j = some zone ↔
    ∃ record, j.record? ["kind", "owner", "cards"] = some record ∧
      FieldReads record "kind" ZoneKind.ofJson? zone.kind ∧
      optional? PlayerId.ofJson? (record.field? "owner") = some zone.owner ∧
      FieldReads record "cards" (fun v => v.arr? >>= (·.mapM CardId.ofJson?)) zone.cards := by
  simp only [ofJson?, FieldReads, Option.bind_eq_bind, Option.bind_eq_some_iff, Option.pure_def,
    Option.some.injEq]
  constructor
  · rintro ⟨record, known, v, hv, kind, read, owner, owned, w, hw, items, list, cards, each, rfl⟩
    exact ⟨record, known, ⟨v, hv, read⟩, owned, w, hw, items, list, each⟩
  · rintro ⟨record, known, ⟨v, hv, read⟩, owned, w, hw, items, list, each⟩
    exact ⟨record, known, v, hv, _, read, _, owned, w, hw, items, list, _, each, rfl⟩

theorem reads_zone (zone : Zone) : Reads (.record .zone) Zone.ofJson? zone.toJson zone := by
  intro j plain
  rw [Zone.ofJson?_eq_some, Zone.toJson, Spelling,
    (reads_zoneKind zone.kind).required plain rfl rfl,
    Json.Reads.optional (fun p _ => reads_owner p) PlayerId.toJson_ne_null plain rfl rfl,
    (Json.reads_list fun c _ => reads_card c).required plain rfl rfl, Json.record?_of_plain plain]
  cases j.isObj <;> simp [SpellingFields]

theorem ZoneStore.ofJson?_eq_some {j : Json} {store : ZoneStore} : ofJson? j = some store ↔
    ∃ record, j.record? ["slots"] = some record ∧
      FieldReads record "slots" (fun v => v.arr? >>= (·.mapM Zone.ofJson?)) store.zones.toList := by
  simp only [ofJson?, FieldReads, Option.bind_eq_bind, Option.bind_eq_some_iff, Option.pure_def,
    Option.some.injEq]
  constructor
  · rintro ⟨record, known, v, hv, items, list, zones, each, rfl⟩
    exact ⟨record, known, v, hv, items, list, each⟩
  · rintro ⟨record, known, v, hv, items, list, each⟩
    exact ⟨record, known, v, hv, items, list, _, each, rfl⟩

theorem reads_store (store : ZoneStore) :
    Reads (.record .store) ZoneStore.ofJson? store.toJson store := by
  intro j plain
  rw [ZoneStore.ofJson?_eq_some, ZoneStore.toJson, Spelling,
    (Json.reads_list fun zone _ => reads_zone zone).required plain rfl rfl,
    Json.record?_of_plain plain]
  cases j.isObj <;> simp [SpellingFields]

theorem BinaryOp.ofJson?_name (op : BinaryOp) : ofJson? (.str op.name) = some op := op.ofName?_name

theorem UnaryOp.ofJson?_name (op : UnaryOp) : ofJson? (.str op.name) = some op := op.ofName?_name

theorem StepOp.ofJson?_name (op : StepOp) : ofJson? (.str op.name) = some op := op.ofName?_name

theorem ListMethod.ofJson?_name (method : ListMethod) : ofJson? (.str method.name) = some method :=
  method.ofName?_name

theorem ZoneKind.ofJson?_name (kind : ZoneKind) : ofJson? (.str kind.name) = some kind :=
  kind.ofName?_name

theorem Json.optional?_ofOption {α : Type} {read : Json → Option α} {write : α → Json}
    (back : ∀ a, read (write a) = some a) (notNull : ∀ a, write a ≠ .null) (o : Option α) :
    optional? read (some (ofOption write o)) = some o := by
  cases o with
  | none => rfl
  | some a =>
    rw [ofOption, optional?_of_ne_null read (notNull a), back a]
    rfl

theorem Json.mapM_written {α : Type} {read : Json → Option α} {write : α → Json}
    (back : ∀ a, read (write a) = some a) (xs : List α) : (xs.map write).mapM read = some xs := by
  induction xs with
  | nil => rfl
  | cons x xs ih => simp [List.mapM_cons, back x, ih]

theorem SourcePos.ofJson?_toJson (p : SourcePos) : ofJson? p.toJson = some p :=
  ofJson?_eq_some.mpr ⟨_, rfl, ⟨_, rfl, Json.uint32?_ofUInt32 p.line⟩, _, rfl,
    Json.uint32?_ofUInt32 p.column⟩

theorem Token.ofJson?_toJson (t : Token) : ofJson? t.toJson = some t :=
  ofJson?_eq_some.mpr ⟨_, rfl, ⟨_, rfl, rfl⟩, .inl ⟨_, rfl, t.pos.ofJson?_toJson⟩⟩

theorem literalOfJson?_written (literal : Option Token) :
    literalOfJson? (.ofOption Token.toJson literal) = some literal :=
  Json.optional?_ofOption Token.ofJson?_toJson Token.toJson_ne_null literal

theorem Expr.ofJson?_toJson (e : Expr) : ofJson? e.toJson = some e := by
  refine ofJson?_eq_some.mpr ?_
  induction e with
  | number literal => exact ⟨_, rfl, literalOfJson?_written literal⟩
  | text literal => exact ⟨_, rfl, literalOfJson?_written literal⟩
  | boolean literal => exact ⟨_, rfl, literalOfJson?_written literal⟩
  | var name => exact ⟨_, rfl, name.ofJson?_toJson⟩
  | group inner ih => exact ⟨_, rfl, ofJson?_eq_some.mpr ih⟩
  | unary op operator operand ih =>
    exact ⟨_, rfl, ⟨_, rfl, op.ofJson?_name⟩, ⟨_, rfl, operator.ofJson?_toJson⟩,
      _, rfl, ofJson?_eq_some.mpr ih⟩
  | binary op operator left right ihl ihr =>
    exact ⟨_, rfl, ⟨_, rfl, op.ofJson?_name⟩, ⟨_, rfl, operator.ofJson?_toJson⟩,
      ⟨_, rfl, ofJson?_eq_some.mpr ihl⟩, _, rfl, ofJson?_eq_some.mpr ihr⟩
  | assign name value ih =>
    exact ⟨_, rfl, ⟨_, rfl, name.ofJson?_toJson⟩, _, rfl, ofJson?_eq_some.mpr ih⟩
  | step op name operator =>
    exact ⟨_, rfl, ⟨_, rfl, op.ofJson?_name⟩, ⟨_, rfl, name.ofJson?_toJson⟩, _, rfl,
      operator.ofJson?_toJson⟩
  | trigger token => exact ⟨_, rfl, token.ofJson?_toJson⟩
  | zone kind access =>
    exact ⟨_, rfl, ⟨_, rfl, kind.ofJson?_name⟩, rfl, _, rfl, access.ofJson?_toJson⟩
  | zoneOf kind player access ih =>
    have present : optional? ofJson? (some player.toJson) = some (some player) := by
      rw [Json.optional?_of_ne_null ofJson? player.toJson_ne_null, ofJson?_eq_some.mpr ih]
      rfl
    exact ⟨_, rfl, ⟨_, rfl, kind.ofJson?_name⟩, present, _, rfl, access.ofJson?_toJson⟩
  | call receiver method name ih =>
    exact ⟨_, rfl, ⟨_, rfl, ofJson?_eq_some.mpr ih⟩, ⟨_, rfl, method.ofJson?_name⟩,
      ⟨_, rfl, name.ofJson?_toJson⟩, rfl⟩
  | callWith receiver method name arg ihr iha =>
    have present : optional? ofJson? (some arg.toJson) = some (some arg) := by
      rw [Json.optional?_of_ne_null ofJson? arg.toJson_ne_null, ofJson?_eq_some.mpr iha]
      rfl
    exact ⟨_, rfl, ⟨_, rfl, ofJson?_eq_some.mpr ihr⟩, ⟨_, rfl, method.ofJson?_name⟩,
      ⟨_, rfl, name.ofJson?_toJson⟩, present⟩

theorem EffectScript.ofJson?_toJson (script : EffectScript) : ofJson? script.toJson = some script :=
  ofJson?_eq_some.mpr ⟨_, rfl, ⟨_, rfl, rfl⟩, _, rfl,
    Json.mapM_written Expr.ofJson?_toJson script.body⟩

theorem PlayerId.ofJson?_toJson (p : PlayerId) : ofJson? p.toJson = some p := by
  rw [ofJson?, toJson, Json.uint8?_ofUInt8]
  rfl

theorem CardId.ofJson?_toJson (c : CardId) : ofJson? c.toJson = some c := by
  rw [ofJson?, toJson, Json.uint32?_ofUInt32]
  rfl

theorem Zone.ofJson?_toJson (zone : Zone) : ofJson? zone.toJson = some zone :=
  ofJson?_eq_some.mpr ⟨_, rfl, ⟨_, rfl, zone.kind.ofJson?_name⟩,
    Json.optional?_ofOption PlayerId.ofJson?_toJson PlayerId.toJson_ne_null zone.owner,
    _, rfl, Json.mapM_written CardId.ofJson?_toJson zone.cards⟩

theorem ZoneStore.ofJson?_toJson (store : ZoneStore) : ofJson? store.toJson = some store :=
  ofJson?_eq_some.mpr ⟨_, rfl, _, rfl, Json.mapM_written Zone.ofJson?_toJson store.zones.toList⟩

/-- Stored forms are exact. What is written is read back, for every expression, effect script and
store of zones; and of the values in which records are objects and names are strings, those and only
those are read as one of them that are spellings of what is written for it. -/
theorem stored_forms_are_exact :
    (∀ e : Expr, Expr.ofJson? e.toJson = some e) ∧
    (∀ script : EffectScript, EffectScript.ofJson? script.toJson = some script) ∧
    (∀ store : ZoneStore, ZoneStore.ofJson? store.toJson = some store) ∧
    (∀ j : Json, j.plain .node = true →
      ∀ e, Expr.ofJson? j = some e ↔ Spelling .node e.toJson j) ∧
    (∀ j : Json, j.plain (.record .script) = true →
      ∀ script, EffectScript.ofJson? j = some script ↔ Spelling (.record .script) script.toJson j) ∧
    (∀ j : Json, j.plain (.record .store) = true →
      ∀ store, ZoneStore.ofJson? j = some store ↔ Spelling (.record .store) store.toJson j) :=
  ⟨Expr.ofJson?_toJson, EffectScript.ofJson?_toJson, ZoneStore.ofJson?_toJson,
    fun j plain e => Expr.reads_expr e j plain, fun j plain script => reads_script script j plain,
    fun j plain store => reads_store store j plain⟩

theorem stored_forms_are_exact_push :
    let e := Expr.callWith (.ofZone .hand) (.card .push) ⟨"Push", ⟨1, 6⟩⟩ (.ofVar "x")
    let j : Json := .obj [("MethodCall", .obj
      [("note", .arr []), ("arg", .obj [("Variable", .obj [("lexeme", .str "x")])]),
        ("name",
          .obj [("pos", .obj [("column", .int 6), ("line", .int 1)]), ("lexeme", .str "Push")]),
        ("method", .str "Push"),
        ("receiver", .obj [("ZoneAccess", .obj
          [("access", .obj [("lexeme", .str "Hand")]), ("zone", .str "Hand")])])])]
    let k : Json := .obj [("Variable", .obj [("lexeme", .str "x"), ("pos", .null)])]
    Expr.ofJson? e.toJson = some e ∧
      j.plain .node = true ∧ Spelling .node e.toJson j ∧ Expr.ofJson? j = some e ∧
      k.plain .node = true ∧ Expr.ofJson? k = none := by
  intro e j k
  obtain ⟨back, -, -, read, -, -⟩ := stored_forms_are_exact
  have access : Spelling (.record .token) (Token.synthetic "Hand").toJson
      (.obj [("lexeme", .str "Hand")]) :=
    ⟨rfl, .inl ⟨_, rfl, rfl⟩, .inr ⟨rfl, rfl⟩, trivial⟩
  have receiver : Spelling .node (Expr.ofZone .hand).toJson (.obj [("ZoneAccess", .obj
      [("access", .obj [("lexeme", .str "Hand")]), ("zone", .str "Hand")])]) :=
    ⟨_, rfl, rfl, .inl ⟨_, rfl, rfl⟩, .inr ⟨rfl, rfl⟩, .inl ⟨_, rfl, access⟩, trivial⟩
  have place : Spelling (.record .place) (SourcePos.mk 1 6).toJson
      (.obj [("column", .int 6), ("line", .int 1)]) :=
    ⟨rfl, .inl ⟨_, rfl, rfl⟩, .inl ⟨_, rfl, rfl⟩, trivial⟩
  have name : Spelling (.record .token) (Token.mk "Push" ⟨1, 6⟩).toJson
      (.obj [("pos", .obj [("column", .int 6), ("line", .int 1)]), ("lexeme", .str "Push")]) :=
    ⟨rfl, .inl ⟨_, rfl, rfl⟩, .inl ⟨_, rfl, place⟩, trivial⟩
  have arg :
      Spelling .node (Expr.ofVar "x").toJson (.obj [("Variable", .obj [("lexeme", .str "x")])]) :=
    ⟨_, rfl, rfl, .inl ⟨_, rfl, rfl⟩, .inr ⟨rfl, rfl⟩, trivial⟩
  have spelled : Spelling .node e.toJson j :=
    ⟨_, rfl, rfl, .inl ⟨_, rfl, receiver⟩, .inl ⟨_, rfl, rfl⟩, .inl ⟨_, rfl, name⟩,
      .inl ⟨_, rfl, arg⟩, trivial⟩
  have misspelled (e' : Expr) : ¬ Spelling .node e'.toJson
      (.obj [("Variable", .obj [("lexeme", .str "x"), ("pos", .null)])]) := by
    intro spelled'
    cases e' with
    | var name =>
      obtain ⟨_, same, -, -, ⟨v, there, spelled'⟩ | ⟨absent, -⟩, -⟩ := spelled'
      · cases same
        cases there
        cases Json.eq_null_of_spelling spelled'
      · cases same
        cases absent
    | _ =>
      obtain ⟨_, same, -⟩ := spelled'
      simp at same
  refine ⟨back e, rfl, spelled, (read j rfl e).mpr spelled, rfl, ?_⟩
  rw [Option.eq_none_iff_forall_ne_some]
  exact fun e' reads => misspelled e' ((read k rfl e').mp reads)

end CardEffects
