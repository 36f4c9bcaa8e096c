import Mathlib.Data.List.Induction

/-!
# Histories

A system that is called time after time, such as a registry or a store of zones. It answers each
call in the state that the calls before it left, so what is known of single calls is known of every
history.
-/

namespace CardEffects.History

variable {σ κ ρ : Type}

def after (serve : σ → κ → ρ × σ) (s : σ) (calls : List κ) : σ :=
  calls.foldl (fun s call => (serve s call).2) s

def replies (serve : σ → κ → ρ × σ) : σ → List κ → List ρ
  | _, [] => []
  | s, call :: rest => (serve s call).1 :: replies serve (serve s call).2 rest

variable (serve : σ → κ → ρ × σ) (s : σ) (calls before later : List κ) (call : κ)

theorem after_append : after serve s (before ++ later) = after serve (after serve s before) later :=
  List.foldl_append

theorem after_concat : after serve s (calls ++ [call]) = (serve (after serve s calls) call).2 :=
  after_append serve s calls [call]

theorem replies_append : replies serve s (before ++ later) =
    replies serve s before ++ replies serve (after serve s before) later := by
  induction before generalizing s with
  | nil => rfl
  | cons call rest ih => exact congrArg ((serve s call).1 :: ·) (ih (serve s call).2)

theorem replies_concat : replies serve s (calls ++ [call]) =
    replies serve s calls ++ [(serve (after serve s calls) call).1] :=
  replies_append serve s calls [call]

theorem length_replies : (replies serve s calls).length = calls.length := by
  induction calls generalizing s with
  | nil => rfl
  | cons call rest ih => exact congrArg (· + 1) (ih (serve s call).2)

theorem getElem?_replies : (replies serve s (before ++ call :: later))[before.length]? =
    some (serve (after serve s before) call).1 := by
  rw [replies_append, List.getElem?_append_right (Nat.le_of_eq (length_replies serve s before)),
    length_replies, Nat.sub_self]
  rfl

end CardEffects.History
