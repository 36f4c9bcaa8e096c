import CardEffects.Lang.Context
import CardEffects.Lang.Environment
import CardEffects.Lang.Event

/-!
# Runs

A run takes a session, which is the variables and the context, to a verdict, the session it leaves
and the events on the way. Runs in sequence pass the session on and join their events; the first
that does not finish ends the sequence, and what it changed until then stays.
-/

namespace CardEffects

structure Session (χ : Type) where
  env : Environment
  context : χ

/-- How a run ends. A context refuses only requests of its host. -/
inductive Verdict (ε α : Type) where
  | done (a : α)
  | failed (e : ε)
  | refused (r : Refusal)

structure Outcome (χ ε α : Type) where
  verdict : Verdict ε α
  session : Session χ
  events : List Event

def Run (χ ε α : Type) : Type := Session χ → Outcome χ ε α

namespace Run

variable {χ ε ε' α β : Type}

protected def pure (a : α) : Run χ ε α := fun s => ⟨.done a, s, []⟩

protected def bind (x : Run χ ε α) (f : α → Run χ ε β) : Run χ ε β := fun s =>
  match x s with
  | ⟨.done a, s, events⟩ =>
    match f a s with
    | ⟨verdict, s, later⟩ => ⟨verdict, s, events ++ later⟩
  | ⟨.failed e, s, events⟩ => ⟨.failed e, s, events⟩
  | ⟨.refused r, s, events⟩ => ⟨.refused r, s, events⟩

instance : Monad (Run χ ε) where
  pure := Run.pure
  bind := Run.bind

theorem pure_apply (a : α) (s : Session χ) : (pure a : Run χ ε α) s = ⟨.done a, s, []⟩ := rfl

theorem bind_of_done {x : Run χ ε α} {f : α → Run χ ε β} {s t : Session χ} {a : α}
    {events : List Event} (h : x s = ⟨.done a, t, events⟩) :
    (x >>= f) s = ⟨(f a t).verdict, (f a t).session, events ++ (f a t).events⟩ := by
  show Run.bind x f s = _
  simp [Run.bind, h]

theorem bind_of_silent {x : Run χ ε α} {f : α → Run χ ε β} {s t : Session χ} {a : α}
    (h : x s = ⟨.done a, t, []⟩) : (x >>= f) s = f a t := by
  rw [bind_of_done h]
  rfl

theorem bind_of_failed {x : Run χ ε α} {f : α → Run χ ε β} {s t : Session χ} {e : ε}
    {events : List Event} (h : x s = ⟨.failed e, t, events⟩) :
    (x >>= f) s = ⟨.failed e, t, events⟩ := by
  show Run.bind x f s = _
  simp [Run.bind, h]

theorem bind_of_refused {x : Run χ ε α} {f : α → Run χ ε β} {s t : Session χ} {r : Refusal}
    {events : List Event} (h : x s = ⟨.refused r, t, events⟩) :
    (x >>= f) s = ⟨.refused r, t, events⟩ := by
  show Run.bind x f s = _
  simp [Run.bind, h]

theorem bind_pure_apply (x : Run χ ε α) : x >>= pure = x := by
  funext s
  show Run.bind x Run.pure s = x s
  rcases h : x s with ⟨v, t, events⟩
  cases v <;> simp [Run.bind, Run.pure, h]

theorem pure_bind_apply (a : α) (f : α → Run χ ε β) : (pure a >>= f) = f a := by
  funext s
  show Run.bind (Run.pure a) f s = f a s
  simp [Run.bind, Run.pure]

theorem bind_bind {γ : Type} (x : Run χ ε α) (f : α → Run χ ε β) (g : β → Run χ ε γ) :
    x >>= f >>= g = x >>= fun a => f a >>= g := by
  funext s
  show Run.bind (Run.bind x f) g s = Run.bind x (fun a => Run.bind (f a) g) s
  rcases h : x s with ⟨v, t, events⟩
  cases v with
  | done a =>
    rcases later : f a t with ⟨w, u, more⟩
    cases w <;> simp [Run.bind, h, later, List.append_assoc]
  | failed e => simp [Run.bind, h]
  | refused r => simp [Run.bind, h]

instance : LawfulMonad (Run χ ε) := LawfulMonad.mk' _ bind_pure_apply pure_bind_apply bind_bind

def fail (e : ε) : Run χ ε α := fun s => ⟨.failed e, s, []⟩

def emit (event : Event) : Run χ ε Unit := fun s => ⟨.done (), s, [event]⟩

def getEnv : Run χ ε Environment := fun s => ⟨.done s.env, s, []⟩

def getContext : Run χ ε χ := fun s => ⟨.done s.context, s, []⟩

def setContext (context : χ) : Run χ ε Unit := fun s => ⟨.done (), { s with context }, []⟩

def assign (name : String) (v : Value) : Run χ ε Unit := fun s =>
  ⟨.done (), { s with env := s.env.assign name v }, []⟩

def ofContext : Except Refusal α → Run χ ε α
  | .ok a => pure a
  | .error r => fun s => ⟨.refused r, s, []⟩

def located (pos : SourcePos) : Except Cause α → Run χ RuntimeError α
  | .ok a => pure a
  | .error cause => fail ⟨cause, pos⟩

theorem getEnv_bind (f : Environment → Run χ ε α) (s : Session χ) : (getEnv >>= f) s = f s.env s :=
  rfl

theorem getContext_bind (f : χ → Run χ ε α) (s : Session χ) :
    (getContext >>= f) s = f s.context s := rfl

theorem setContext_bind (context : χ) (f : Unit → Run χ ε α) (s : Session χ) :
    (setContext context >>= f) s = f () { s with context } := rfl

def onFailure (x : Run χ ε α) (note : ε → Event) (f : ε → ε') : Run χ ε' α := fun s =>
  match x s with
  | ⟨.done a, s, events⟩ => ⟨.done a, s, events⟩
  | ⟨.failed e, s, events⟩ => ⟨.failed (f e), s, events ++ [note e]⟩
  | ⟨.refused r, s, events⟩ => ⟨.refused r, s, events⟩

end Run

end CardEffects
