import Mathlib.Data.List.Basic

/-! # Calls one after the other

`call` gives the answer of a call and the state it leaves. A list of calls run one after the other is
the sequential history that a concurrent one is compared with. -/

namespace AutoTrade.Lib.Sequential

variable {σ κ α : Type*} (call : σ → κ → α × σ)

/-- The answers of the calls and the state after them. -/
def sequential : σ → List κ → List α × σ
  | s, [] => ([], s)
  | s, c :: cs =>
    let (answer, s') := call s c
    let (answers, s'') := sequential s' cs
    (answer :: answers, s'')

theorem sequential_cons (s : σ) (c : κ) (cs : List κ) :
    sequential call s (c :: cs) =
      ((call s c).1 :: (sequential call (call s c).2 cs).1, (sequential call (call s c).2 cs).2) :=
  rfl

theorem sequential_concat (s : σ) (cs : List κ) (c : κ) :
    sequential call s (cs ++ [c]) =
      ((sequential call s cs).1 ++ [(call (sequential call s cs).2 c).1],
        (call (sequential call s cs).2 c).2) := by
  induction cs generalizing s with
  | nil => rfl
  | cons c' cs ih =>
    rw [List.cons_append, sequential_cons, ih, sequential_cons, List.cons_append]

end AutoTrade.Lib.Sequential
