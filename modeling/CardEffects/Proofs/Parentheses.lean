import CardEffects.Proofs.DepthGuard
import CardEffects.Proofs.TwoRuns

/-!
# Parentheses

A group is its content one level further down. Apart from the depth guard no node asks for its
level, so an expression does the same without its groups, and a failure names the same place.
-/

namespace CardEffects

namespace Expr

def bare : Expr → Expr
  | number token => number token
  | text token => text token
  | boolean token => boolean token
  | var name => var name
  | group inner => inner.bare
  | unary op operator operand => unary op operator operand.bare
  | binary op operator left right => binary op operator left.bare right.bare
  | assign name value => assign name value.bare
  | step op name operator => step op name operator
  | trigger token => trigger token
  | zone kind access => zone kind access
  | zoneOf kind player access => zoneOf kind player.bare access
  | call receiver method name => call receiver.bare method name
  | callWith receiver method name arg => callWith receiver.bare method name arg.bare

theorem pos_bare (e : Expr) : e.bare.pos = e.pos := by
  induction e with
  | group inner ih => exact ih
  | _ => rfl

theorem height_bare_le (e : Expr) : e.bare.height ≤ e.height := by
  induction e with
  | number | text | boolean | var | step | trigger | zone => exact Nat.le_refl _
  | group inner ih => exact Nat.le_succ_of_le ih
  | unary _ _ _ ih | assign _ _ ih | zoneOf _ _ _ ih | call _ _ _ ih => exact Nat.succ_le_succ ih
  | binary _ _ _ _ ihl ihr | callWith _ _ _ _ ihl ihr =>
    simp only [bare, height]
    omega

theorem not_group_of_mem_bare {e node : Expr} (mem : node ∈ e.bare.nodes) (inner : Expr) :
    node ≠ .group inner := by
  induction e with
  | group content ih => exact ih mem
  | number | text | boolean | var | step | trigger | zone =>
    rw [List.mem_singleton.mp mem]
    nofun
  | unary op operator e ih | assign name e ih | zoneOf kind e access ih | call e method name ih =>
    rcases List.mem_cons.mp mem with rfl | below
    · nofun
    · exact ih below
  | binary op operator left right ihl ihr | callWith left method name right ihl ihr =>
    rcases List.mem_cons.mp mem with rfl | below
    · nofun
    · exact (List.mem_append.mp below).elim ihl ihr

end Expr

open Run

variable {χ : Type} [ScriptContext χ]

theorem evaluate_bare (level level' : Nat) (e : Expr) :
    evaluate (χ := χ) none level e.bare = evaluate none level' e := by
  -- the two runs drift apart by a level for each group, so neither level is tied to the other
  induction e generalizing level level' with
  | number | text | boolean | var | step | trigger | zone => rfl
  | group inner ih => exact ih level (level' + 1)
  | unary _ _ _ ih | assign _ _ ih | zoneOf _ _ _ ih | call _ _ _ ih =>
    simp only [Expr.bare, evaluate, checkLevel, ih (level + 1) (level' + 1)]
  | binary _ _ _ _ ihl ihr =>
    simp only [Expr.bare, evaluate, checkLevel, ihl (level + 1) (level' + 1),
      ihr (level + 1) (level' + 1)]
  | callWith receiver method name arg ihr iha =>
    cases method with
    | card m =>
      simp only [Expr.bare, evaluate, checkLevel, ihr (level + 1) (level' + 1),
        iha (level + 1) (level' + 1)]
    | pile m => simp only [Expr.bare, evaluate, checkLevel, ihr (level + 1) (level' + 1)]

/-- Parentheses are transparent: without its groups an expression stands in the same place, and
within the limit it has the same result, or the same failure in the same place, and leaves the same
session and events. -/
theorem parentheses_are_transparent (e : Expr) :
    (∀ node ∈ e.bare.nodes, ∀ inner, node ≠ .group inner) ∧ e.bare.pos = e.pos ∧
      ∀ (config : EvalConfig) (s : Session χ), e.height ≤ config.maxDepth →
        config.run e.bare s = config.run e s := by
  refine ⟨fun _ => Expr.not_group_of_mem_bare, e.pos_bare, fun config s low => ?_⟩
  rw [run_eq_of_height_le low, run_eq_of_height_le (Nat.le_trans e.height_bare_le low),
    evaluate_bare 0 0]

theorem parentheses_are_transparent_drawn :
    let deck := MatchState.handleOf .deck ⟨0⟩
    let dealt : MatchState := ⟨1, ⟨0⟩, (MatchState.layout 1).setCards deck [⟨1⟩], ∅, .ofSeed 0, ⟨2⟩⟩
    let s : Session MatchState := ⟨.empty, dealt⟩
    let drawn : Session MatchState := ⟨s.env.assign "x" (.card ⟨1⟩), dealt.withCards deck []⟩
    let draw := Expr.ofCall (.ofZone .deck) (.pile .pop)
    let operator : Token := ⟨"@", ⟨1, 18⟩⟩
    let e := Expr.binary .concat operator (.group (.ofAssign "x" (.group draw)))
      (.group (.group (.ofText "a")))
    let o : Outcome MatchState RuntimeError Value :=
      ⟨.failed ⟨.operands .string, ⟨1, 18⟩⟩, drawn, [.changed deck (.popped (some ⟨1⟩))]⟩
    e.bare = .binary .concat operator (.ofAssign "x" draw) (.ofText "a") ∧
      (EvalConfig.mk 6).run e s = o ∧ (EvalConfig.mk 6).run e.bare s = o ∧
      (EvalConfig.mk 5).run e.bare s = o ∧ ((EvalConfig.mk 5).run e s).TooDeep := by
  intro deck dealt s drawn draw operator e o
  obtain ⟨-, -, same⟩ := parentheses_are_transparent (χ := MatchState) e
  have grouped : (EvalConfig.mk 6).run e s = o := rfl
  exact ⟨rfl, grouped, (same ⟨6⟩ s (by decide)).trans grouped, rfl, _, rfl, rfl⟩

end CardEffects
