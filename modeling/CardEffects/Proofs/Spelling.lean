import CardEffects.Stored.Script
import CardEffects.Stored.Zones

/-!
# Spellings of stored forms

A form may be stored in more ways than the one in which it is written: the fields of a record in any
order and among others, and some of them left out. `Spelling` says which values are as good as a
written one. A reader is exact if it reads just the spellings of what the writer writes, and reads
off them what was written.
-/

namespace CardEffects

inductive RecordKind where
  | place
  | token
  | unary
  | binary
  | assign
  | step
  | zoneAccess
  | methodCall
  | script
  | zone
  | store
  deriving DecidableEq

/-- What a stored form is made of: words and numbers, bare names, lists, records, and the nodes of
expressions. Where a part may be missing, null stands for it, whatever its shape. -/
inductive Shape where
  | leaf
  | name
  | list (item : Shape)
  | record (kind : RecordKind)
  | node
  deriving DecidableEq

namespace RecordKind

def fields : RecordKind → List (String × Shape)
  | place => [("line", .leaf), ("column", .leaf)]
  | token => [("lexeme", .leaf), ("pos", .record place)]
  | unary => [("op", .name), ("operator", .record token), ("operand", .node)]
  | binary => [("op", .name), ("operator", .record token), ("left", .node), ("right", .node)]
  | assign => [("name", .record token), ("value", .node)]
  | step => [("op", .name), ("name", .record token), ("operator", .record token)]
  | zoneAccess => [("zone", .name), ("player", .node), ("access", .record token)]
  | methodCall => [("receiver", .node), ("method", .name), ("name", .record token), ("arg", .node)]
  | script => [("name", .leaf), ("body", .list .node)]
  | zone => [("kind", .name), ("owner", .leaf), ("cards", .list .leaf)]
  | store => [("slots", .list (.record zone))]

def shape (r : RecordKind) (field : String) : Shape := (r.fields.lookup field).getD .leaf

/-- What stands in a field that is left out; any other field is required. -/
def absent? : RecordKind → String → Option Json
  | token, "pos" => some SourcePos.zero.toJson
  | zoneAccess, "player" | methodCall, "arg" | zone, "owner" => some .null
  | _, _ => none

end RecordKind

namespace Shape

def nodes : List (String × Shape) :=
  [("Number", .record .token), ("Text", .record .token), ("Boolean", .record .token),
    ("Variable", .record .token), ("Group", .node), ("Unary", .record .unary),
    ("Binary", .record .binary), ("Assign", .record .assign), ("Step", .record .step),
    ("TriggerPlayer", .record .token), ("ZoneAccess", .record .zoneAccess),
    ("MethodCall", .record .methodCall)]

def inNode (kind : String) : Shape := (nodes.lookup kind).getD .leaf

end Shape

namespace Json

def isObj : Json → Bool
  | obj _ => true
  | _ => false

mutual

/-- Whether no list stands where a record is wanted, and no object where a name is. What stands in
other fields may be anything. -/
def plain : Shape → Json → Bool
  | .name, obj _ => false
  | .list item, arr items => plainItems item items
  | .record _, arr _ => false
  | .record r, obj given => plainFields r.fields given
  -- an object with no or several fields is no node, and nothing is asked of it
  | .node, obj given => given.length != 1 || plainFields Shape.nodes given
  | _, _ => true

def plainItems (item : Shape) : List Json → Bool
  | [] => true
  | j :: rest => plain item j && plainItems item rest

def plainFields (wanted : List (String × Shape)) : List (String × Json) → Bool
  | [] => true
  | (name, j) :: rest =>
    (match wanted.lookup name with
      | some shape => plain shape j
      | none => true) && plainFields wanted rest

end

mutual

/-- The second value is a spelling of the first, which is as something of this shape is written. -/
def Spelling : Shape → Json → Json → Prop
  | .list item, arr written, j => ∃ items, j = arr items ∧ SpellingItems item written items
  | .record r, obj written, j => j.isObj = true ∧ SpellingFields r written j
  | .node, obj [(kind, written)], j =>
    ∃ body, j = obj [(kind, body)] ∧ Spelling (Shape.inNode kind) written body
  | _, written, j => j = written

def SpellingItems (item : Shape) : List Json → List Json → Prop
  | [], items => items = []
  | written :: rest, items =>
    ∃ j others, items = j :: others ∧ Spelling item written j ∧ SpellingItems item rest others

def SpellingFields (r : RecordKind) : List (String × Json) → Json → Prop
  | [], _ => True
  | (name, written) :: rest, j =>
    ((∃ v, j.field? name = some v ∧ Spelling (r.shape name) written v) ∨
      j.field? name = none ∧ r.absent? name = some written) ∧ SpellingFields r rest j

end

/-- On plain values, the reader gives `x` for the spellings of what is written and for nothing
else. -/
def Reads {α : Type} (shape : Shape) (read : Json → Option α) (written : Json) (x : α) : Prop :=
  ∀ j, j.plain shape = true → (read j = some x ↔ Spelling shape written j)

def FieldReads {α : Type} (j : Json) (name : String) (read : Json → Option α) (x : α) : Prop :=
  ∃ v, j.field? name = some v ∧ read v = some x

theorem isObj_of_field? {j v : Json} {name : String} (h : j.field? name = some v) :
    j.isObj = true := by
  cases j <;> first | rfl | cases h

theorem FieldReads.isObj {α : Type} {j : Json} {name : String} {read : Json → Option α} {x : α}
    (h : FieldReads j name read x) : j.isObj = true := by
  obtain ⟨v, there, -⟩ := h
  exact isObj_of_field? there

theorem spelling_record {r : RecordKind} {written : List (String × Json)} {j : Json} :
    Spelling (.record r) (.obj written) j ↔ j.isObj = true ∧ SpellingFields r written j := Iff.rfl

theorem spelling_node {kind : String} {written j : Json} :
    Spelling .node (.obj [(kind, written)]) j ↔
    ∃ body, j = .obj [(kind, body)] ∧ Spelling (Shape.inNode kind) written body := Iff.rfl

theorem spelling_null {shape : Shape} {j : Json} : Spelling shape .null j ↔ j = .null := by
  cases shape <;> rfl

theorem eq_null_of_spelling {shape : Shape} {written : Json} (h : Spelling shape written .null) :
    written = .null := by
  unfold Spelling at h
  split at h
  · obtain ⟨_, h, -⟩ := h
    cases h
  · cases h.1
  · obtain ⟨_, h, -⟩ := h
    cases h
  · exact h.symm

theorem plainFields_lookup {wanted : List (String × Shape)} {given : List (String × Json)}
    {name : String} {shape : Shape} {v : Json} (plain : plainFields wanted given = true)
    (found : wanted.lookup name = some shape) (there : given.lookup name = some v) :
    v.plain shape = true := by
  induction given with
  | nil => cases there
  | cons entry rest ih =>
    obtain ⟨key, value⟩ := entry
    simp only [plainFields, Bool.and_eq_true] at plain
    by_cases same : name = key
    · subst same
      simp only [List.lookup_cons_self, Option.some.injEq] at there
      subst there
      simpa only [found] using plain.1
    · have other : (name == key) = false := by simpa using same
      rw [List.lookup_cons, other] at there
      exact ih plain.2 there

section

variable {α : Type} {r : RecordKind} {j : Json} {name : String} {shape : Shape}
  {read : Json → Option α} {written : Json} {rest : List (String × Json)} {x : α}

theorem plain_field (plain : j.plain (.record r) = true) (found : r.fields.lookup name = some shape)
    {v : Json} (there : j.field? name = some v) : v.plain shape = true := by
  cases j with
  | obj given => exact plainFields_lookup plain found there
  | _ => cases there

theorem plain_inNode {kind : String} {body : Json} (plain : (obj [(kind, body)]).plain .node = true)
    (found : Shape.nodes.lookup kind = some shape) : body.plain shape = true := by
  simp only [Json.plain, plainFields, found, List.length_singleton] at plain
  simpa using plain

theorem record?_of_plain (plain : j.plain (.record r) = true) (names : List String) :
    j.record? names = if j.isObj = true then some j else none := by
  cases j with
  | arr items => cases plain
  | _ => rfl

theorem Reads.spelled (h : Reads shape read written x) (plain : j.plain (.record r) = true)
    (found : r.fields.lookup name = some shape) : SpellingFields r ((name, written) :: rest) j ↔
      (FieldReads j name read x ∨ j.field? name = none ∧ r.absent? name = some written) ∧
        SpellingFields r rest j := by
  have wanted : r.shape name = shape := by simp only [RecordKind.shape, found, Option.getD_some]
  simp only [SpellingFields, wanted]
  refine and_congr_left fun _ =>
    or_congr_left (exists_congr fun v => and_congr_right fun there => ?_)
  exact (h v (plain_field plain found there)).symm

theorem Reads.required (h : Reads shape read written x) (plain : j.plain (.record r) = true)
    (found : r.fields.lookup name = some shape) (required : r.absent? name = none) :
    SpellingFields r ((name, written) :: rest) j ↔
      FieldReads j name read x ∧ SpellingFields r rest j := by
  rw [h.spelled plain found, required]
  simp

theorem Reads.defaulted (h : Reads shape read written x) (plain : j.plain (.record r) = true)
    (found : r.fields.lookup name = some shape) {meant : Json}
    (absent : r.absent? name = some meant) :
    SpellingFields r ((name, written) :: rest) j ↔
      (FieldReads j name read x ∨ j.field? name = none ∧ meant = written) ∧
      SpellingFields r rest j := by
  rw [h.spelled plain found, absent, Option.some.injEq]

variable {write : α → Json} {o : Option α}

theorem optional?_of_ne_null (read : Json → Option α) (present : j ≠ .null) :
    optional? read (some j) = (read j).map some := by
  cases j <;> first | exact absurd rfl present | rfl

theorem Reads.nullable (h : ∀ a, o = some a → Reads shape read (write a) a)
    (notNull : ∀ a, write a ≠ .null) :
    Reads shape (fun j => optional? read (some j)) (ofOption write o) o := by
  intro j plain
  by_cases missing : j = .null
  · subst missing
    cases o with
    | none => simp only [optional?, ofOption, spelling_null]
    | some a =>
      simp only [optional?, ofOption, Option.some.injEq, reduceCtorEq, false_iff]
      exact fun spelling => notNull a (eq_null_of_spelling spelling)
  · simp only [optional?_of_ne_null read missing]
    cases o with
    | none => simp [ofOption, spelling_null, missing]
    | some a => simpa [ofOption] using h a rfl j plain

-- The null of a field that is left out is what is written for a missing part, so `defaulted`
-- would not do.
theorem Reads.optional (h : ∀ a, o = some a → Reads shape read (write a) a)
    (notNull : ∀ a, write a ≠ .null) (plain : j.plain (.record r) = true)
    (found : r.fields.lookup name = some shape) (absent : r.absent? name = some .null) :
    SpellingFields r ((name, ofOption write o) :: rest) j ↔
      optional? read (j.field? name) = some o ∧ SpellingFields r rest j := by
  have wanted : r.shape name = shape := by simp only [RecordKind.shape, found, Option.getD_some]
  simp only [SpellingFields, absent, wanted]
  refine and_congr_left fun _ => ?_
  cases there : j.field? name with
  | none =>
    cases o with
    | none => simp [optional?, ofOption]
    | some a => simpa [optional?, ofOption] using (notNull a).symm
  | some v =>
    have reads := Reads.nullable h notNull v (plain_field plain found there)
    simp [reads]

end

theorem reads_items {α : Type} {item : Shape} {read : Json → Option α} {write : α → Json}
    {xs : List α} (h : ∀ x ∈ xs, Reads item read (write x) x) {items : List Json}
    (plain : plainItems item items = true) :
    items.mapM read = some xs ↔ SpellingItems item (xs.map write) items := by
  induction xs generalizing items with
  | nil =>
    cases items with
    | nil => simp [SpellingItems]
    | cons j rest => simp [SpellingItems, Option.bind_eq_some_iff]
  | cons x xs ih =>
    cases items with
    | nil => simp [SpellingItems]
    | cons j rest =>
      simp only [plainItems, Bool.and_eq_true] at plain
      have first := h x List.mem_cons_self j plain.1
      have others := ih (fun y hy => h y (List.mem_cons_of_mem x hy)) plain.2
      have both : (j :: rest).mapM read = some (x :: xs) ↔
          read j = some x ∧ rest.mapM read = some xs := by
        simp [Option.bind_eq_some_iff]
      rw [both, first, others]
      refine ⟨fun h => ⟨j, rest, rfl, h⟩, ?_⟩
      rintro ⟨_, _, same, h⟩
      cases same
      exact h

theorem reads_list {α : Type} {item : Shape} {read : Json → Option α} {write : α → Json}
    {xs : List α} (h : ∀ x ∈ xs, Reads item read (write x) x) :
    Reads (.list item) (fun j => j.arr? >>= (·.mapM read)) (.arr (xs.map write)) xs := by
  intro j plain
  cases j with
  | arr items =>
    simp only [Json.plain] at plain
    simpa [arr?, Spelling] using reads_items h plain
  | _ => simp [arr?, Spelling]

end Json

end CardEffects
