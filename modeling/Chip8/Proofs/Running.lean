import Chip8.Proofs.Execution

/-!
# Proofs/Running — a run is ticks in a row, wherever it stops

A run may stop at a halt or go on.  A tick of a halted engine returns the engine as it is, asks
nothing and says nothing (`tick_of_halted`), so the ticks that are left out are the ones that do
nothing.  So a run takes one tick off in the same way in both cases (`run_succ`), and the rest
follows by induction on the number of ticks: whole operations are equal, with their results, their
log entries and what they do to their keyboard.
-/

namespace Chip8

namespace Engine

variable {σ : Type} {kb : Keyboard σ} {elapsed : Option Double} {stopOnHalt : Bool} {e : Engine}

/-- A halted engine stays as it is for any number of ticks. -/
theorem run_of_halted (hh : e.halted = true) (n : Nat) :
    run kb elapsed stopOnHalt n e = pure e := by
  induction n with
  | zero => rfl
  | succ n ih =>
    have htick : (e.tick kb elapsed >>= run kb elapsed stopOnHalt n) = pure e := by
      rw [tick_of_halted hh, pure_bind, ih]
    rw [run]
    split
    · rfl
    · exact htick

/-- **A run takes one tick off**, whether or not it stops at a halt. -/
theorem run_succ (n : Nat) : run kb elapsed stopOnHalt (n + 1) e =
    e.tick kb elapsed >>= run kb elapsed stopOnHalt n := by
  rw [run]
  split
  · next hstop =>
    have hh : e.halted = true := (Bool.and_eq_true_iff.1 hstop).2
    rw [tick_of_halted hh, pure_bind, run_of_halted hh]
  · rfl

theorem run_eq_foldlM (n : Nat) : run kb elapsed stopOnHalt n e =
    (List.replicate n elapsed).foldlM (fun e elapsed => e.tick kb elapsed) e := by
  induction n generalizing e with
  | zero => rfl
  | succ n ih =>
    rw [run_succ, List.replicate_succ, List.foldlM_cons]
    exact bind_congr fun next => ih

/-- A run of `m + n` ticks is a run of `m` ticks and one of `n`. -/
theorem run_add (m n : Nat) : run kb elapsed stopOnHalt (m + n) e =
    run kb elapsed stopOnHalt m e >>= run kb elapsed stopOnHalt n := by
  induction m generalizing e with
  | zero =>
    rw [Nat.zero_add]
    exact (pure_bind e _).symm
  | succ m ih =>
    rw [Nat.add_right_comm, run_succ, run_succ, bind_assoc]
    exact bind_congr fun next => ih

/-- **A run is ticks in a row**, and it cannot be told whether it stops at a halt: engine or error,
log entries and keyboard are the same, also if the keyboard keeps a record of all that it is asked.
Runs compose.  A halted engine is the same after any number of ticks; nothing is asked, nothing is
said and nothing fails, whatever a tick of it would do if it were not halted. -/
theorem run_is_ticking (kb : Keyboard σ) (elapsed : Option Double) (e : Engine) :
    (∀ n, run kb elapsed true n e = run kb elapsed false n e) ∧
    (∀ stopOnHalt n, run kb elapsed stopOnHalt n e =
      (List.replicate n elapsed).foldlM (fun e elapsed => e.tick kb elapsed) e) ∧
    (∀ stopOnHalt m n, run kb elapsed stopOnHalt (m + n) e =
      run kb elapsed stopOnHalt m e >>= run kb elapsed stopOnHalt n) ∧
    ∀ stopOnHalt n s, run kb elapsed stopOnHalt n { e with halted := true } s =
      ⟨.ok { e with halted := true }, s, []⟩ := by
  refine ⟨fun n => ?_, fun _ => run_eq_foldlM, fun _ => run_add, fun stopOnHalt n s => ?_⟩
  · rw [run_eq_foldlM, run_eq_foldlM]
  · rw [run_of_halted rfl]
    rfl

/-- An engine that fails at its first tick, and its halted twin. -/
example :
    let e : Engine := { pc := 0xFFF }
    (run HeldKey.keyboard none true 3 e { key := none }).result =
      .error (.fault (.outOfBounds 0xFFF 2)) ∧
    run HeldKey.keyboard none false 3 { e with halted := true } { key := none } =
      ⟨.ok { e with halted := true }, { key := none }, []⟩ :=
  ⟨rfl, rfl⟩

end Engine

end Chip8
