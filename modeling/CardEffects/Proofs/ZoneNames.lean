import CardEffects.Proofs.Causes
import CardEffects.Proofs.Confinement
import CardEffects.Proofs.DepthGuard
import CardEffects.Proofs.Variables

/-!
# The names of a zone

A zone of the player whose turn it is has three names in scripts: its kind, its kind with the number
of that player, and any variable that lists it. No script gives the turn to another player and no
handle is made anew, so one name may stand for another anywhere in an expression, whatever happens
to the cards.
-/

namespace CardEffects

theorem PlayerId.toInt64_toFloat_number (p : PlayerId) :
    Number.toInt64 p.number.toFloat = p.number := by
  have exact_below : ∀ n : Fin 257, Number.toInt64 n.val.toFloat = n.val := by decide +kernel
  have byte : p.number < 257 := Nat.succ_lt_succ p.index.toNat_lt
  exact exact_below ⟨p.number, byte⟩

namespace Expr

/-- The second expression names a zone of the active player where the first one names the variable
`x`, in the same place. -/
inductive ZoneForVar (x : String) (kind : ZoneKind) : Expr → Expr → Prop
  | intro {name access : Token} : name.lexeme = x → access.pos = name.pos →
      ZoneForVar x kind (.var name) (.zone kind access)

inductive ZoneOfForZone : Expr → Expr → Prop
  | intro (kind : ZoneKind) (access token : Token) :
      ZoneOfForZone (.zone kind access) (.zoneOf kind (.trigger token) access)

theorem ZoneForVar.pos_eq {x : String} {kind : ZoneKind} (a b : Expr)
    (replaced : ZoneForVar x kind a b) :
    a.pos = b.pos := by
  obtain ⟨-, place⟩ := replaced
  exact place.symm

theorem ZoneOfForZone.pos_eq (a b : Expr) (replaced : ZoneOfForZone a b) : a.pos = b.pos := by
  cases replaced
  rfl

theorem ZoneOfForZone.height_le (a b : Expr) (replaced : ZoneOfForZone a b) :
    a.height ≤ b.height := by
  cases replaced
  exact Nat.le_succ 1

theorem Rewritten.height_le {R : Expr → Expr → Prop} {e e' : Expr} (h : e.Rewritten R e')
    (grows : ∀ a b, R a b → a.height ≤ b.height) : e.height ≤ e'.height := by
  induction h with
  | here replaced => exact grows _ _ replaced
  | number | text | boolean | var | step | trigger | zone => exact Nat.le_refl _
  | group _ ih | unary _ _ _ ih | assign _ _ ih | zoneOf _ _ _ ih | call _ _ _ ih =>
    exact Nat.succ_le_succ ih
  | binary _ _ _ _ ihl ihr | callWith _ _ _ _ ihl ihr =>
    simp only [height]
    omega

end Expr

def Same {χ : Type} (P : Session χ → Prop) (s t : Session χ) : Prop := s = t ∧ P s

namespace Run

section

variable {χ : Type} {P : Session χ → Prop}

theorem Keeps.alike {ε α : Type} {x : Run χ ε α} (hx : x.Keeps P) : Alike (Same P) Eq Eq x x := by
  rintro s _ ⟨rfl, hs⟩
  exact ⟨Verdict.matches_refl _, ⟨rfl, hx.session hs⟩, List.forall₂_refl _⟩

theorem ReadOnly.alike {ε α : Type} {x : Run χ ε α} (hx : x.ReadOnly) : Alike (Same P) Eq Eq x x :=
  hx.keeps.alike

variable [ScriptContext χ]

theorem same_operatesAlike {node : Expr}
    (assigned : ∀ s name v, node.ownTarget? = some name → P s →
      P { s with env := s.env.assign name v })
    (card : ∀ m zone c pos, (applyCard m zone c pos).Keeps P)
    (pile : ∀ m zone pos, (applyPile m zone pos).Keeps P) :
      OperatesAlike (Same P) Eq Eq Eq node := by
  cases node with
  | var name => exact (readOnly_variableOf name).alike
  | assign name value =>
    rintro v _ rfl
    exact Keeps.alike (keeps_assignTo name v fun s w => assigned s name.lexeme w rfl)
  | step op name operator =>
    exact Keeps.alike (keeps_stepOn op name operator fun s w => assigned s name.lexeme w rfl)
  | _ =>
    exact operatesAlike_self rfl (fun hx _ => hx.alike)
      (fun m zone c pos => (card m zone c pos).alike) fun m zone pos => (pile m zone pos).alike

end

variable {α : Type} {f : Frame} {P : Environment → Prop}

def Framed (f : Frame) (P : Environment → Prop) (s : Session MatchState) : Prop :=
  s.context.frame = f ∧ P s.env

theorem Blind.keeps_framed {x : Run MatchState RuntimeError α} (hx : x.Blind)
    (framed : x.Keeps (·.context.frame = f)) : x.Keeps (Framed f P) := by
  rintro s ⟨frame, holds⟩
  have after : Framed f P (x s).session := ⟨framed.session frame, by rwa [hx.env_eq s]⟩
  cases (x s).verdict <;> exact after

theorem framed_operatesAlike_self {node : Expr}
    (assigned : ∀ env name v, node.ownTarget? = some name → P env → P (env.assign name v)) :
    OperatesAlike (Same (Framed f P)) Eq Eq Eq node :=
  same_operatesAlike (fun s name v target h => ⟨h.1, assigned s.env name v target h.2⟩)
    (fun m zone c pos => (blind_applyCard m zone c pos).keeps_framed
      ((frame_isScriptInvariant f).card m pos trivial trivial).keeps)
    fun m zone pos => (blind_applyPile m zone pos).keeps_framed
      ((frame_isScriptInvariant f).pile m pos trivial).keeps

variable {s : Session MatchState} {kind : ZoneKind} {zone : ZoneHandle}

theorem activeZone_of_ok (found : s.context.zoneHandle kind s.context.activePlayer = .ok zone) :
    activeZone kind s = ⟨.done (.cardList zone), s, []⟩ := by
  simp only [activeZone, getContext_bind, ScriptContext.zone, ScriptContext.activePlayer, found]
  rfl

theorem alike_of_zoneForVar {m : MatchState} {x : String}
    (found : m.zoneHandle kind m.activePlayer = .ok zone) {a b : Expr}
    (replaced : Expr.ZoneForVar x kind a b) (limit : Option Nat) (level : Nat) :
    Alike (Same (Framed m.frame (·.lookup? x = some (.cardList zone)))) Eq Eq
      (evaluate limit level a) (evaluate limit level b) := by
  obtain ⟨rfl, place⟩ := replaced
  rename_i name access
  simp only [evaluate, Expr.pos, place]
  refine (alike_checkLevel limit level name.pos).bind fun _ _ _ => ?_
  rintro s _ ⟨rfl, frame, bound⟩
  have active : s.context.activePlayer = m.activePlayer := congrArg Frame.activePlayer frame
  have here : s.context.zoneHandle kind s.context.activePlayer = .ok zone := by
    rw [MatchState.zoneHandle_of_frame frame, active, found]
  rw [variableOf_done_iff.mpr ⟨bound, rfl, rfl⟩, activeZone_of_ok here]
  exact ⟨rfl, ⟨rfl, frame, bound⟩, .nil⟩

theorem numberedZone_active (seated : s.context.frame.Seated) (kind : ZoneKind) (access : Token) :
    numberedZone kind access (.number s.context.activePlayer.number.toFloat) s =
      activeZone kind s := by
  have player : PlayerId.ofNumber? s.context.activePlayer.number s.context.seats =
      some s.context.activePlayer := PlayerId.ofNumber?_number seated.few seated.active
  simp only [numberedZone, getContext_bind, PlayerId.toInt64_toFloat_number,
    ScriptContext.player?, player]
  rfl

theorem alike_of_zoneOfForZone (seated : f.Seated) {a b : Expr} (replaced : Expr.ZoneOfForZone a b)
    (level : Nat) :
    Alike (Same (Framed f P)) Eq Eq (evaluate none level a) (evaluate none level b) := by
  obtain ⟨kind, access, token⟩ := replaced
  rintro s _ ⟨rfl, rfl, holds⟩
  have explicit : evaluate none level (.zoneOf kind (.trigger token) access) s =
      numberedZone kind access (.number s.context.activePlayer.number.toFloat) s := rfl
  have sugar : evaluate none level (.zone kind access) s = activeZone kind s := rfl
  rw [explicit, sugar, numberedZone_active seated]
  exact (readOnly_activeZone kind).alike s s ⟨rfl, rfl, holds⟩

end Run

/-- Three names of a zone are as good as each other. In a match that a host can reach, a variable
that lists a zone of the active player, and that the expression does not set, may be replaced by the
kind of the zone anywhere; and where the guard does not strike, any such zone may be given the
number of its player. Result, variables, match and events are the same. -/
theorem zone_names_are_interchangeable {m : MatchState} (reached : m.Reached) (env : Environment)
    (config : EvalConfig) (e : Expr) :
    (∀ kind zone x e', m.zoneHandle kind m.activePlayer = .ok zone →
      env.lookup? x = some (.cardList zone) → x ∉ e.targets →
      e.Rewritten (Expr.ZoneForVar x kind) e' →
      config.run e' ⟨env, m⟩ = config.run e ⟨env, m⟩) ∧
    ∀ e', e.Rewritten Expr.ZoneOfForZone e' → e'.height ≤ config.maxDepth →
      config.run e' ⟨env, m⟩ = config.run e ⟨env, m⟩ := by
  refine ⟨fun kind zone x e' found bound kept rewritten => ?_, fun e' rewritten low => ?_⟩
  · have operates (node : Expr) (mem : node ∈ e.nodes) :
        Run.OperatesAlike (Same (Run.Framed m.frame (·.lookup? x = some (.cardList zone)))) Eq Eq Eq
          node := by
      refine Run.framed_operatesAlike_self fun env name v target bound => ?_
      have other : name ≠ x := fun same => kept (same ▸ Expr.mem_targets mem target)
      simpa only [Environment.lookup?_assign, other, if_false] using bound
    have alike := Run.evaluate_rewritten rewritten Expr.ZoneForVar.pos_eq
      (fun _ _ replaced => Run.alike_of_zoneForVar found replaced (some config.maxDepth)) operates 0
    rw [EvalConfig.run_eq, EvalConfig.run_eq]
    exact ((alike ⟨env, m⟩ ⟨env, m⟩ ⟨rfl, rfl, bound⟩).eq fun _ _ same => same.1).symm
  · obtain ⟨_, _, _, reached⟩ := reached
    have seated : m.frame.Seated := reachable_seated reached
    have operates (node : Expr) (_ : node ∈ e.nodes) :
        Run.OperatesAlike (Same (Run.Framed m.frame fun _ => True)) Eq Eq Eq node :=
      Run.framed_operatesAlike_self fun _ _ _ _ _ => trivial
    have alike := Run.evaluate_rewritten rewritten Expr.ZoneOfForZone.pos_eq
      (fun _ _ replaced => Run.alike_of_zoneOfForZone seated replaced) operates 0
    have lower : e.height ≤ config.maxDepth :=
      Nat.le_trans (rewritten.height_le Expr.ZoneOfForZone.height_le) low
    rw [run_eq_of_height_le low, run_eq_of_height_le lower]
    exact ((alike ⟨env, m⟩ ⟨env, m⟩ ⟨rfl, rfl, trivial⟩).eq fun _ _ same => same.1).symm

theorem zone_names_are_interchangeable_draw :
    let deck := MatchState.handleOf .deck ⟨0⟩
    let started : MatchState := ⟨2, ⟨0⟩, MatchState.layout 2, ∅, .ofSeed 0, ⟨1⟩⟩
    let dealt := (started.place "Wolf" (some ⟨0⟩) 4 deck).2
    let env := Environment.empty.assign "x" (.cardList deck)
    let draw (pile hand : Expr) := Expr.ofCallWith hand (.card .push) (.ofCall pile (.pile .pop))
    let e := draw (.ofVar "x") (.ofZone .hand)
    let named := draw (.ofZone .deck) (.ofZone .hand)
    let numbered := draw (.ofVar "x") (.zoneOf .hand .ofTrigger (.synthetic "Hand"))
    dealt.Reached ∧ dealt.zoneHandle .deck dealt.activePlayer = .ok deck ∧
      env.lookup? "x" = some (.cardList deck) ∧ "x" ∉ e.targets ∧
      e.Rewritten (Expr.ZoneForVar "x" .deck) named ∧ e.Rewritten Expr.ZoneOfForZone numbered ∧
      numbered.height ≤ EvalConfig.default.maxDepth ∧
      EvalConfig.default.run named ⟨env, dealt⟩ = EvalConfig.default.run e ⟨env, dealt⟩ ∧
      EvalConfig.default.run numbered ⟨env, dealt⟩ = EvalConfig.default.run e ⟨env, dealt⟩ ∧
      (EvalConfig.default.run e ⟨env, dealt⟩).verdict =
        .done (.cardList (MatchState.handleOf .hand ⟨0⟩)) := by
  intro deck started dealt env draw e named numbered
  have start : Reachable (fun _ _ _ => True) ⟨2, 0⟩ [] ⟨.empty, started⟩ := .start rfl
  have wolf : Reachable (fun _ _ _ => True) ⟨2, 0⟩ [⟨1⟩] ⟨.empty, dealt⟩ :=
    start.spawn "Wolf" ⟨0⟩ .deck 4 rfl
  have reached : dealt.Reached := ⟨_, _, _, wolf⟩
  have kind : e.Rewritten (Expr.ZoneForVar "x" .deck) named :=
    .callWith _ _ (.zone _ _) (.call _ _ (.here (.intro rfl rfl)))
  have player : e.Rewritten Expr.ZoneOfForZone numbered :=
    .callWith _ _ (.here (.intro _ _ _)) (.call _ _ (.var _))
  have kept : "x" ∉ e.targets := by decide
  have low : numbered.height ≤ EvalConfig.default.maxDepth := by decide
  obtain ⟨named_alike, numbered_alike⟩ := zone_names_are_interchangeable reached env .default e
  exact ⟨reached, rfl, rfl, kept, kind, player, low,
    named_alike .deck deck "x" named rfl rfl kept kind, numbered_alike numbered player low, rfl⟩

end CardEffects
