import CardEffects.Proofs.Doubles
import CardEffects.Proofs.ZoneNames

/-!
# Prefix steps

`++x` is `x = (x + 1)` and `--x` is `x = (x - 1)`: where the one has a value, the other has the
same, and where it fails, the other fails with an error of the same kind in the same place. They
differ in the words for an operand that is not a number, and in the depth that they need.
-/

namespace CardEffects

def RuntimeError.site (err : RuntimeError) : ErrorKind × SourcePos := (err.cause.kind, err.pos)

def StepOp.operator? : StepOp → Option BinaryOp
  | preIncrement => some .add
  | preDecrement => some .subtract
  | postIncrement | postDecrement => none

/-- The second expression assigns to the variable one more or less than its value where the first
one is a prefix step, in the same places. The operation may stand in parentheses. -/
inductive Expr.AssignmentForStep : Expr → Expr → Prop
  | bare {op : StepOp} {sign : BinaryOp} {name operator one : Token} :
      op.operator? = some sign → one.lexeme = "1" →
      AssignmentForStep (.step op name operator)
        (.assign name (.binary sign operator (.var name) (.number (some one))))
  | grouped {op : StepOp} {sign : BinaryOp} {name operator one : Token} :
      op.operator? = some sign → one.lexeme = "1" →
      AssignmentForStep (.step op name operator)
        (.assign name (.group (.binary sign operator (.var name) (.number (some one)))))

theorem Expr.AssignmentForStep.height_le (a b : Expr) (replaced : AssignmentForStep a b) :
    a.height ≤ b.height := by
  cases replaced <;> exact Nat.succ_le_succ (Nat.zero_le _)

namespace StepOp

variable {op : StepOp} {sign : BinaryOp} {cards? : ZoneHandle → Option (List CardId)}

theorem isBefore_of_operator? (prefixed : op.operator? = some sign) : op.isBefore = true := by
  cases op <;> first | rfl | cases prefixed

theorem operator?_apply (prefixed : op.operator? = some sign) (v : Value) :
    sign.apply cards? v (.number 1) = match v with
      | .number old => .ok (.number (old + op.delta))
      | _ => .error (.operands .numeric) := by
  cases op with
  | preIncrement =>
    cases prefixed
    cases v <;> rfl
  | preDecrement =>
    cases prefixed
    cases v with
    | number old => exact congrArg (fun y => Except.ok (Value.number y)) (Number.sub_one old)
    | _ => rfl
  | _ => cases prefixed

end StepOp

namespace Run

variable {χ : Type} [ScriptContext χ] {op : StepOp} {sign : BinaryOp} {name operator one : Token}

theorem numberLiteral_one : numberLiteral "1" = .ok (.number 1) := rfl

theorem evaluate_operation (isOne : one.lexeme = "1") (level : Nat) :
    evaluate (χ := χ) none level (.binary sign operator (.var name) (.number (some one))) =
      variableOf name >>= fun v => applyBinary sign operator v (.number 1) := by
  simp only [evaluate, checkLevel, literal, isOne, numberLiteral_one, located, pure_bind]

theorem evaluate_step_none (level : Nat) :
    evaluate (χ := χ) none level (.step op name operator) = stepOn op name operator := by
  simp only [evaluate, checkLevel, pure_bind]

theorem evaluate_group_none (inner : Expr) (level : Nat) :
    evaluate (χ := χ) none level (.group inner) = evaluate none (level + 1) inner := by
  simp only [evaluate, checkLevel, pure_bind]

theorem evaluate_assign_none (value : Expr) (level : Nat) :
    evaluate (χ := χ) none level (.assign name value) =
      evaluate none (level + 1) value >>= assignTo name := by
  simp only [evaluate, checkLevel, pure_bind]

theorem operation_site (prefixed : op.operator? = some sign) :
    ((variableOf name >>= fun v => applyBinary sign operator v (.number 1)) >>=
      assignTo name).mapError
      RuntimeError.site = (stepOn (χ := χ) op name operator).mapError RuntimeError.site := by
  rw [bind_bind, stepOn, mapError_bind, mapError_bind]
  refine congrArg (_ >>= ·) (funext fun v => funext fun s => ?_)
  simp only [applyBinary, StepOp.operator?_apply prefixed, StepOp.isBefore_of_operator? prefixed]
  cases v <;> rfl

theorem assignmentForStep_site {a b : Expr} (replaced : Expr.AssignmentForStep a b) (level : Nat) :
    (evaluate (χ := χ) none level b).mapError RuntimeError.site =
      (evaluate none level a).mapError RuntimeError.site := by
  cases replaced with
  | bare prefixed isOne =>
    rw [evaluate_assign_none, evaluate_operation isOne, operation_site prefixed, evaluate_step_none]
  | grouped prefixed isOne =>
    rw [evaluate_assign_none, evaluate_group_none, evaluate_operation isOne,
      operation_site prefixed, evaluate_step_none]

theorem evaluate_site {e e' : Expr} (rewritten : e.Rewritten Expr.AssignmentForStep e')
    (level : Nat) :
    (evaluate (χ := χ) none level e').mapError RuntimeError.site =
      (evaluate none level e).mapError RuntimeError.site := by
  -- what is behind an operand that failed is not run, so only the wording of errors has to be
  -- left out
  induction rewritten generalizing level with
  | here replaced => exact assignmentForStep_site replaced level
  | number | text | boolean | var | step | trigger | zone => rfl
  | group _ ih | unary _ _ _ ih | assign _ _ ih | zoneOf _ _ _ ih | call _ _ _ ih =>
    simp only [evaluate, checkLevel, pure_bind, mapError_bind, ih]
  | binary _ _ _ _ ihl ihr =>
    simp only [evaluate, checkLevel, pure_bind, mapError_bind, ihl, ihr]
  | callWith method name _ _ ihr iha =>
    cases method with
    | card m => simp only [evaluate, checkLevel, pure_bind, mapError_bind, ihr, iha]
    | pile m => simp only [evaluate, checkLevel, pure_bind, mapError_bind, ihr]

end Run

variable {χ : Type} [ScriptContext χ]

/-- A prefix step is the assignment that it abbreviates. Where the guard does not strike, an
expression and the one with some of its prefix steps written out end with the same value, or with
errors of one kind in one place, and either way they leave the same session and events. -/
theorem prefix_steps_are_assignments {e e' : Expr}
    (rewritten : e.Rewritten Expr.AssignmentForStep e') (config : EvalConfig)
    (low : e'.height ≤ config.maxDepth) (s : Session χ) :
    let o := config.run e s
    let o' := config.run e' s
    o'.verdict.mapError RuntimeError.site = o.verdict.mapError RuntimeError.site ∧
      o'.session = o.session ∧ o'.events = o.events := by
  intro o o'
  have within := Nat.le_trans (rewritten.height_le Expr.AssignmentForStep.height_le) low
  have sites := congrFun (Run.evaluate_site (χ := χ) rewritten 0) s
  rw [show o = evaluate none 0 e s from run_eq_of_height_le within s,
    show o' = evaluate none 0 e' s from run_eq_of_height_le low s]
  have verdict := congrArg Outcome.verdict sites
  have session := congrArg Outcome.session sites
  have events := congrArg Outcome.events sites
  exact ⟨verdict, session, events⟩

theorem prefix_steps_are_assignments_of_text :
    let env := (Environment.empty.assign "n" (.number 2)).assign "t" (.text "two")
    let s : Session MatchState := ⟨env, ⟨1, ⟨0⟩, MatchState.layout 1, ∅, .ofSeed 0, ⟨1⟩⟩⟩
    let more : Token := ⟨"++", ⟨1, 1⟩⟩
    let less : Token := ⟨"--", ⟨1, 7⟩⟩
    let one := Expr.ofNumber "1"
    let e := Expr.ofBinary .multiply (.step .preIncrement ⟨"n", ⟨1, 3⟩⟩ more)
      (.step .preDecrement ⟨"t", ⟨1, 9⟩⟩ less)
    let e' := Expr.ofBinary .multiply
      (.assign ⟨"n", ⟨1, 3⟩⟩ (.binary .add more (.var ⟨"n", ⟨1, 3⟩⟩) one))
      (.assign ⟨"t", ⟨1, 9⟩⟩ (.group (.binary .subtract less (.var ⟨"t", ⟨1, 9⟩⟩) one)))
    let o := (EvalConfig.mk 5).run e s
    let o' := (EvalConfig.mk 5).run e' s
    e.Rewritten Expr.AssignmentForStep e' ∧ e'.height = 5 ∧
      o.verdict = .failed ⟨.operand .numeric, ⟨1, 7⟩⟩ ∧
      o'.verdict.mapError RuntimeError.site = .failed (.typeMismatch, ⟨1, 7⟩) ∧
      o'.session = o.session ∧ o'.session.env.lookup? "n" = some (.number (2 + 1)) := by
  intro env s more less one e e' o o'
  have rewritten : e.Rewritten Expr.AssignmentForStep e' :=
    .binary .multiply _ (.here (.bare rfl rfl)) (.here (.grouped rfl rfl))
  have failed : o.verdict = .failed ⟨.operand .numeric, ⟨1, 7⟩⟩ := rfl
  obtain ⟨verdict, session, -⟩ := prefix_steps_are_assignments rewritten ⟨5⟩ (by decide) s
  have found : o.session.env.lookup? "n" = some (.number (2 + 1)) := rfl
  exact ⟨rewritten, rfl, failed, verdict.trans (congrArg _ failed), session, session ▸ found⟩

end CardEffects
