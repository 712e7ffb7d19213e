import RetryTrial.Session

/-!
# Runs of a session

A run that is cut into two is the first part, and the second part from the world after the first. So
an action that leaves the world as it found it can be left out without a change elsewhere.
-/

namespace RetryTrial.World

def after (setup : Setup) (w : World) (steps : List (Nat × Action)) : World :=
  steps.foldl (fun w step => (w.act setup step.1 step.2).value.2) w

variable (setup : Setup)

@[simp] theorem length_run (w : World) (steps : List (Nat × Action)) :
    (run setup w steps).length = steps.length := by
  induction steps generalizing w with
  | nil => rfl
  | cons step steps ih => simp [run, ih]

theorem run_append (w : World) (past rest : List (Nat × Action)) :
    run setup w (past ++ rest) = run setup w past ++ run setup (w.after setup past) rest := by
  induction past generalizing w with
  | nil => rfl
  | cons step past ih => simp [run, after, ih]

/-- Every step of a run starts from the world after the steps before it. -/
theorem getElem?_run (w : World) (steps : List (Nat × Action)) (n : Nat) :
    (run setup w steps)[n]? =
      steps[n]?.map fun step => (w.after setup (steps.take n)).act setup step.1 step.2 := by
  induction steps generalizing w n with
  | nil => rfl
  | cons step steps ih =>
      cases n with
      | zero => rfl
      | succ n => exact ih _ n

theorem after_take_succ {steps : List (Nat × Action)} {n now : Nat} {action : Action}
    (h : steps[n]? = some (now, action)) (w : World) :
    w.after setup (steps.take (n + 1)) =
      ((w.after setup (steps.take n)).act setup now action).value.2 := by
  simp only [after, List.take_add_one, h, Option.toList_some, List.foldl_append, List.foldl_cons,
    List.foldl_nil]

theorem run_eraseIdx {start : World} {past : List (Nat × Action)} {now : Nat} {action : Action}
    (h : ((start.after setup past).act setup now action).value.2 = start.after setup past)
    (rest : List (Nat × Action)) :
    (run setup start (past ++ (now, action) :: rest)).eraseIdx past.length =
      run setup start (past ++ rest) := by
  have hlength : (run setup start past).length ≤ past.length := Nat.le_of_eq (length_run ..)
  rw [run_append, run_append, List.eraseIdx_append_of_length_le hlength, length_run, Nat.sub_self]
  simp [run, h]

end RetryTrial.World
