import CardEffects.Effect.Registry

/-!
# Rules for runs

Three ways to speak of a run without looking into it. `ReadOnly` runs leave the session alone.
`Leaves` relates the session before, the events and the session after, whatever the verdict.
`Ensures` is a precondition with a postcondition for each way to end; `Within` is the case in which
one property of sessions holds before and after. Each has a rule for sequences and one fact for each
operation of a node, and `evaluate_leaves` carries `Leaves` through all of evaluation. A sequence
with its errors or its events put in other terms is the sequence of its parts put so.
-/

namespace CardEffects

def Event.isRejection : Event → Bool
  | playerRejected _ _ | receiverRejected _ _ | argumentRejected _ => true
  | changed _ _ | effectInvoked _ _ | effectAborted _ _ | effectFinished _ _ => false

def Verdict.Meets {ε α : Type} (Q : α → Prop) (E : Option ε → Prop) : Verdict ε α → Prop
  | done a => Q a
  | failed e => E (some e)
  | refused _ => E none

theorem Verdict.Meets.imp {ε α : Type} {Q Q' : α → Prop} {E : Option ε → Prop} {v : Verdict ε α}
    (h : v.Meets Q E) (hQ : ∀ a, Q a → Q' a) : v.Meets Q' E := by
  cases v with
  | done a => exact hQ a h
  | failed e => exact h
  | refused r => exact h

theorem Verdict.Meets.const {ε α : Type} {p : Prop} {v : Verdict ε α}
    (h : v.Meets (fun _ => p) fun _ => p) : p := by
  cases v <;> exact h

theorem Verdict.Meets.and_left {ε α : Type} {Q : α → Prop} {E : Option ε → Prop} {p : Prop}
    {v : Verdict ε α} (h : v.Meets (fun a => Q a ∧ p) fun e => E e ∧ p) : v.Meets Q E := by
  cases v <;> exact h.1

theorem Verdict.Meets.and_right {ε α : Type} {Q : α → Prop} {E : Option ε → Prop} {p : Prop}
    {v : Verdict ε α} (h : v.Meets (fun a => Q a ∧ p) fun e => E e ∧ p) : p := by
  cases v <;> exact h.2

def Verdict.mapError {ε ε' α : Type} (f : ε → ε') : Verdict ε α → Verdict ε' α
  | done a => done a
  | failed e => failed (f e)
  | refused r => refused r

theorem Verdict.mapError_id {ε α : Type} (v : Verdict ε α) : v.mapError id = v := by cases v <;> rfl

namespace Run

variable {χ ε ε' α β : Type}

def mapError (f : ε → ε') (x : Run χ ε α) : Run χ ε' α := fun s =>
  ⟨(x s).verdict.mapError f, (x s).session, (x s).events⟩

theorem mapError_bind (f : ε → ε') (x : Run χ ε α) (g : α → Run χ ε β) :
    (x >>= g).mapError f = x.mapError f >>= fun a => (g a).mapError f := by
  funext s
  rcases run : x s with ⟨v, t, events⟩
  have mapped : x.mapError f s = ⟨v.mapError f, t, events⟩ := by rw [mapError, run]
  cases v with
  | done a => rw [bind_of_done mapped, mapError, bind_of_done run, mapError]
  | failed e => rw [bind_of_failed mapped, mapError, bind_of_failed run]; rfl
  | refused r => rw [bind_of_refused mapped, mapError, bind_of_refused run]; rfl

def mapEvents (g : Event → Event) (x : Run χ ε α) : Run χ ε α := fun s =>
  ⟨(x s).verdict, (x s).session, (x s).events.map g⟩

theorem mapEvents_bind (g : Event → Event) (x : Run χ ε α) (k : α → Run χ ε β) :
    (x >>= k).mapEvents g = x.mapEvents g >>= fun a => (k a).mapEvents g := by
  funext s
  rcases run : x s with ⟨v, t, events⟩
  have mapped : x.mapEvents g s = ⟨v, t, events.map g⟩ := by rw [mapEvents, run]
  cases v with
  | done a => rw [bind_of_done mapped, mapEvents, bind_of_done run, mapEvents, List.map_append]
  | failed e => rw [bind_of_failed mapped, mapEvents, bind_of_failed run]
  | refused r => rw [bind_of_refused mapped, mapEvents, bind_of_refused run]

def ReadOnly (x : Run χ ε α) : Prop :=
  ∀ s, (x s).session = s ∧
    ((x s).events = [] ∨ ∃ event : Event, event.isRejection = true ∧ (x s).events = [event])

theorem readOnly_pure (a : α) : (pure a : Run χ ε α).ReadOnly := fun _ => ⟨rfl, .inl rfl⟩

theorem readOnly_fail (e : ε) : (fail e : Run χ ε α).ReadOnly := fun _ => ⟨rfl, .inl rfl⟩

theorem readOnly_located (pos : SourcePos) (r : Except Cause α) :
    (located (χ := χ) pos r).ReadOnly := by
  cases r with
  | ok a => exact readOnly_pure a
  | error cause => exact readOnly_fail _

theorem readOnly_listOf (r : Except Refusal ZoneHandle) :
    (ofContext r >>= fun zone => pure (.cardList zone) : Run χ ε Value).ReadOnly := by
  cases r with
  | ok zone => exact readOnly_pure _
  | error r => exact fun _ => ⟨rfl, .inl rfl⟩

theorem readOnly_rejected {event : Event} (h : event.isRejection = true) (e : ε) :
    (emit event >>= fun _ => fail e : Run χ ε α).ReadOnly :=
  fun _ => ⟨rfl, .inr ⟨event, h, rfl⟩⟩

theorem readOnly_getEnv {f : Environment → Run χ ε α} (hf : ∀ env, (f env).ReadOnly) :
    (getEnv >>= f).ReadOnly := fun s => hf s.env s

theorem readOnly_getContext {f : χ → Run χ ε α} (hf : ∀ context, (f context).ReadOnly) :
    (getContext >>= f).ReadOnly := fun s => hf s.context s

theorem readOnly_checkLevel (limit : Option Nat) (level : Nat) (pos : SourcePos) :
    (checkLevel (χ := χ) limit level pos).ReadOnly := by
  simp only [checkLevel]
  split
  · split
    · exact readOnly_fail _
    · exact readOnly_pure ()
  · exact readOnly_pure ()

theorem readOnly_literal (token : Option Token) (read : String → Except Cause Value) :
    (literal (χ := χ) token read).ReadOnly := by
  cases token with
  | none => exact readOnly_pure _
  | some token => exact readOnly_located _ _

theorem readOnly_variableOf (name : Token) : (variableOf (χ := χ) name).ReadOnly := by
  refine readOnly_getEnv fun env => ?_
  split
  · exact readOnly_pure _
  · exact readOnly_fail _

theorem readOnly_noOverload (name : Token) (given : Nat) :
    (noOverload (χ := χ) name given).ReadOnly := readOnly_fail _

theorem readOnly_cardArgument (name : Token) (v : Value) :
    (cardArgument (χ := χ) name v).ReadOnly := by
  cases v with
  | card c => exact readOnly_pure c
  | _ => exact readOnly_rejected rfl _

/-- Relations between the session before, the events and the session after that a sequence keeps. -/
structure IsTrace (R : Session χ → List Event → Session χ → Prop) : Prop where
  nil (s : Session χ) : R s [] s
  append {s t u : Session χ} {events later : List Event} :
    R s events t → R t later u → R s (events ++ later) u

def Leaves (R : Session χ → List Event → Session χ → Prop) (x : Run χ ε α) : Prop :=
  ∀ s, R s (x s).events (x s).session

variable {R : Session χ → List Event → Session χ → Prop}

theorem IsTrace.bind (hR : IsTrace R) {x : Run χ ε α} {f : α → Run χ ε β} (hx : Leaves R x)
    (hf : ∀ a, Leaves R (f a)) : Leaves R (x >>= f) := by
  intro s
  have h := hx s
  rcases hs : x s with ⟨v, t, events⟩
  rw [hs] at h
  cases v with
  | done a =>
    rw [bind_of_done hs]
    exact hR.append h (hf a t)
  | failed e =>
    rw [bind_of_failed hs]
    exact h
  | refused r =>
    rw [bind_of_refused hs]
    exact h

/-- From every session with `P`, a run that finishes does so with `Q`, and one that fails or is
refused ends with `E`. -/
def Ensures (x : Run χ ε α) (P : Session χ → Prop) (Q : α → Session χ → Prop)
    (E : Option ε → Session χ → Prop) : Prop :=
  ∀ s, P s → (x s).verdict.Meets (Q · (x s).session) (E · (x s).session)

variable {P : Session χ → Prop} {Q : α → Session χ → Prop} {E : Option ε → Session χ → Prop}

theorem Ensures.bind {x : Run χ ε α} {f : α → Run χ ε β} {Q' : β → Session χ → Prop}
    (hx : x.Ensures P Q E) (hf : ∀ a, (f a).Ensures (Q a) Q' E) : (x >>= f).Ensures P Q' E := by
  intro s hs
  have h := hx s hs
  rcases run : x s with ⟨v, t, events⟩
  rw [run] at h
  cases v with
  | done a =>
    rw [bind_of_done run]
    exact hf a t h
  | failed e =>
    rw [bind_of_failed run]
    exact h
  | refused r =>
    rw [bind_of_refused run]
    exact h

theorem Ensures.mono {x : Run χ ε α} {P' : Session χ → Prop} {Q' : α → Session χ → Prop}
    (hx : x.Ensures P Q E) (hP : ∀ s, P' s → P s) (hQ : ∀ a s, Q a s → Q' a s) :
    x.Ensures P' Q' E := by
  intro s hs
  exact (hx s (hP s hs)).imp fun a => hQ a _

theorem ReadOnly.ensures {x : Run χ ε α} (hx : x.ReadOnly)
    (hv : ∀ s, P s → (x s).verdict.Meets (Q · s) (E · s)) : x.Ensures P Q E := by
  intro s hs
  rw [(hx s).1]
  exact hv s hs

abbrev Keeps (x : Run χ ε α) (P : Session χ → Prop) : Prop := x.Ensures P (fun _ => P) fun _ => P

theorem Keeps.session {x : Run χ ε α} (hx : x.Keeps P) {s : Session χ} (hs : P s) :
    P (x s).session := (hx s hs).const

def Within (x : Run χ ε α) (I : Session χ → Prop) (B : Option ε → Prop) (W : α → Prop) : Prop :=
  x.Ensures I (fun a s => W a ∧ I s) fun e s => B e ∧ I s

section

variable {I : Session χ → Prop} {B : Option ε → Prop} {W : α → Prop} {W' : β → Prop}

theorem Within.bind {x : Run χ ε α} {f : α → Run χ ε β} (hx : x.Within I B W)
    (hf : ∀ a, W a → (f a).Within I B W') : (x >>= f).Within I B W' :=
  Ensures.bind hx fun a s hs => hf a hs.1 s hs.2

theorem Within.keeps {x : Run χ ε α} (hx : x.Within I B W) : x.Keeps I := by
  intro s hs
  have h := hx s hs
  revert h
  cases (x s).verdict <;> exact fun h => h.2

theorem ReadOnly.within {x : Run χ ε α} (hx : x.ReadOnly)
    (hv : ∀ s, I s → (x s).verdict.Meets W B) : x.Within I B W := by
  refine hx.ensures fun s hs => ?_
  have h := hv s hs
  revert h
  cases (x s).verdict <;> exact fun h => ⟨h, hs⟩

end

theorem Ensures.onFailure {x : Run χ ε α} {E' : Option ε' → Session χ → Prop} {f : ε → ε'}
    (hx : x.Ensures P Q E) (hE : ∀ e s, E e s → E' (e.map f) s) (note : ε → Event) :
    (x.onFailure note f).Ensures P Q E' := by
  intro s hs
  have h := hx s hs
  simp only [Run.onFailure]
  rcases run : x s with ⟨v, t, events⟩
  rw [run] at h
  cases v with
  | done a => exact h
  | failed e => exact hE (some e) t h
  | refused r => exact hE none t h

theorem ReadOnly.keeps {x : Run χ ε α} (hx : x.ReadOnly) : x.Keeps P := by
  refine hx.ensures fun s hs => ?_
  cases (x s).verdict <;> exact hs

theorem Ensures.checked {x : Run χ RuntimeError α} {Q : α → Session χ → Prop}
    (hx : x.Ensures P Q fun _ => P) (limit : Option Nat) (level : Nat) (pos : SourcePos) :
    (checkLevel limit level pos >>= fun _ => x).Ensures P Q fun _ => P :=
  (readOnly_checkLevel limit level pos).keeps.bind fun _ => hx

theorem keeps_assignTo (name : Token) (v : Value)
    (hP : ∀ s w, P s → P { s with env := s.env.assign name.lexeme w }) :
    (assignTo name v).Keeps P := by
  intro s hs
  by_cases null : v.isNull
  · simp only [assignTo, null]
    exact hs
  · simp only [assignTo, null]
    exact hP s _ hs

theorem keeps_stepOn (op : StepOp) (name operator : Token)
    (hP : ∀ s w, P s → P { s with env := s.env.assign name.lexeme w }) :
    (stepOn op name operator).Keeps P := by
  refine (readOnly_variableOf name).keeps.bind fun v => ?_
  cases v with
  | number old => exact fun s hs => hP s _ hs
  | _ => exact (readOnly_fail _).keeps

variable [ScriptContext χ]

theorem readOnly_triggerPlayer : (triggerPlayer (χ := χ)).ReadOnly :=
  readOnly_getContext fun _ => readOnly_pure _

theorem readOnly_activeZone (kind : ZoneKind) : (activeZone (χ := χ) kind).ReadOnly := by
  exact readOnly_getContext fun context => readOnly_listOf _

theorem readOnly_numberedZone (kind : ZoneKind) (access : Token) (player : Value) :
    (numberedZone (χ := χ) kind access player).ReadOnly := by
  cases player with
  | number x =>
    refine readOnly_getContext fun context => ?_
    split
    · exact readOnly_listOf _
    · exact readOnly_fail _
  | _ => exact readOnly_rejected rfl _

theorem readOnly_applyBinary (op : BinaryOp) (operator : Token) (a b : Value) :
    (applyBinary (χ := χ) op operator a b).ReadOnly :=
  readOnly_getContext fun _ => readOnly_located _ _

theorem readOnly_receiverOf (name : Token) (receiver : Value) :
    (receiverOf (χ := χ) name receiver).ReadOnly := by
  cases receiver with
  | cardList zone =>
    intro s
    simp only [receiverOf, cardsOf, bind_bind, getContext_bind]
    cases ScriptContext.cards? s.context zone <;> exact ⟨rfl, .inl rfl⟩
  | _ => exact readOnly_rejected rfl _

structure IsScriptTrace (R : Session χ → List Event → Session χ → Prop) :
    Prop extends IsTrace R where
  assigned (s : Session χ) (name : String) {v : Value} :
    v.isNull = false → R s [] { s with env := s.env.assign name v }
  rejected (s : Session χ) {event : Event} : event.isRejection = true → R s [event] s
  card (m : CardMethod) (zone : ZoneHandle) (c : CardId) (pos : SourcePos) :
    Leaves R (applyCard m zone c pos)
  pile (m : PileMethod) (zone : ZoneHandle) (pos : SourcePos) : Leaves R (applyPile m zone pos)

theorem ReadOnly.leaves {x : Run χ ε α} (hx : x.ReadOnly) (hR : IsScriptTrace R) : Leaves R x := by
  intro s
  obtain ⟨same, none | ⟨event, rejection, one⟩⟩ := hx s
  · rw [same, none]
    exact hR.nil s
  · rw [same, one]
    exact hR.rejected s rejection

theorem leaves_assignTo (hR : IsScriptTrace R) (name : Token) (v : Value) :
    Leaves R (assignTo (χ := χ) name v) := by
  intro s
  by_cases null : v.isNull
  · simp only [assignTo, null]
    exact hR.nil s
  · have stored : v.isNull = false := by simpa using null
    simp only [assignTo, stored]
    exact hR.assigned s name.lexeme stored

theorem leaves_stepOn (hR : IsScriptTrace R) (op : StepOp) (name operator : Token) :
    Leaves R (stepOn (χ := χ) op name operator) := by
  refine hR.bind ((readOnly_variableOf name).leaves hR) fun v => ?_
  cases v with
  | number old => exact fun s => hR.assigned s name.lexeme rfl
  | _ => exact (readOnly_fail _).leaves hR

theorem leaves_callOn (hR : IsScriptTrace R) (method : ListMethod) (zone : ZoneHandle)
    (name : Token) : Leaves R (callOn (χ := χ) method zone name) := by
  cases method with
  | pile m => exact hR.pile m zone name.pos
  | card m => exact (readOnly_noOverload name 0).leaves hR

theorem evaluate_leaves (hR : IsScriptTrace R) (limit : Option Nat) (level : Nat) (e : Expr) :
    Leaves R (evaluate (χ := χ) limit level e) := by
  have enter (level : Nat) (pos : SourcePos) {x : Run χ RuntimeError Value} (hx : Leaves R x) :
      Leaves R (checkLevel limit level pos >>= fun _ => x) :=
    hR.bind ((readOnly_checkLevel limit level pos).leaves hR) fun _ => hx
  induction e generalizing level with
  | number token => exact enter _ _ ((readOnly_literal _ _).leaves hR)
  | text token => exact enter _ _ ((readOnly_literal _ _).leaves hR)
  | boolean token => exact enter _ _ ((readOnly_literal _ _).leaves hR)
  | var name => exact enter _ _ ((readOnly_variableOf _).leaves hR)
  | group inner ih => exact enter _ _ (ih (level + 1))
  | unary op operator operand ih =>
    exact enter _ _ (hR.bind (ih (level + 1)) fun v => (readOnly_located _ _).leaves hR)
  | binary op operator left right ihl ihr =>
    exact enter _ _ (hR.bind (ihl (level + 1)) fun a => hR.bind (ihr (level + 1)) fun b =>
      (readOnly_applyBinary _ _ _ _).leaves hR)
  | assign name value ih =>
    exact enter _ _ (hR.bind (ih (level + 1)) fun v => leaves_assignTo hR _ _)
  | step op name operator => exact enter _ _ (leaves_stepOn hR _ _ _)
  | trigger token => exact enter _ _ (readOnly_triggerPlayer.leaves hR)
  | zone kind access => exact enter _ _ ((readOnly_activeZone _).leaves hR)
  | zoneOf kind player access ih =>
    exact enter _ _ (hR.bind (ih (level + 1)) fun v => (readOnly_numberedZone _ _ _).leaves hR)
  | call receiver method name ih =>
    exact enter _ _ (hR.bind (ih (level + 1)) fun v =>
      hR.bind ((readOnly_receiverOf _ _).leaves hR) fun zone => leaves_callOn hR _ _ _)
  | callWith receiver method name arg ihr iha =>
    refine enter _ _ (hR.bind (ihr (level + 1)) fun v =>
      hR.bind ((readOnly_receiverOf _ _).leaves hR) fun zone => ?_)
    cases method with
    | card m =>
      exact hR.bind (iha (level + 1)) fun given =>
        hR.bind ((readOnly_cardArgument _ _).leaves hR) fun c => hR.card m zone c name.pos
    | pile m => exact (readOnly_noOverload name 1).leaves hR

end Run

namespace EffectRegistry

variable {χ : Type} [ScriptContext χ] {P : Session χ → Prop} {Q : Value → Session χ → Prop}
  {E : Option RuntimeError → Session χ → Prop} {F : Option EffectError → Session χ → Prop}

theorem runBody_ensures {config : EvalConfig} {effect : String} {body : List Expr}
    (h : ∀ e ∈ body, (config.run e).Ensures P Q E) (hQ : ∀ v s, Q v s → P s)
    (hE : ∀ e s, E e s → F (e.map (.aborted effect)) s) (last : Value) :
    ((runBody config effect last body).atLevel 0).Ensures (Q last) Q F := by
  induction body generalizing last with
  | nil => exact fun s hs => hs
  | cons e rest ih =>
    rw [runBody_cons]
    have first := (h e List.mem_cons_self).onFailure hE (.effectAborted effect)
    exact (first.mono (hQ last) fun _ _ => id).bind
      (ih fun e he => h e (List.mem_cons_of_mem _ he))

theorem invoke_ensures {r : EffectRegistry} {name : String} {script : EffectScript}
    (found : r.get? name = some script) (h : ∀ e ∈ script.body, (r.config.run e).Ensures P Q E)
    (hQ : ∀ v s, Q v s → P s) (hE : ∀ e s, E e s → F (e.map (.aborted name)) s)
    (vars : Environment) (context : χ) (empty : Q .null ⟨vars, context⟩) :
    (r.invoke name vars context).verdict.Meets (Q · (r.invoke name vars context).session)
      (F · (r.invoke name vars context).session) := by
  simp only [invoke, found]
  have body := runBody_ensures h hQ hE .null
  have whole : (runScript r.config name script.body).Ensures (Q .null) Q F :=
    Run.Ensures.bind (Q := fun _ => Q .null) (fun _ hs => hs) fun _ => body.bind fun v _ hs => hs
  exact whole _ empty

end EffectRegistry

end CardEffects
