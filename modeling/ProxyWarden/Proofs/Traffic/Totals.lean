import Mathlib.Data.List.Basic
import Mathlib.Tactic.SplitIfs
import ProxyWarden.Traffic.Rate

/-!
# The two meters of a counter

What a counter counts one way never shows in the meter of the other way, and a reset sets both anew
(`RateCounter.meter_perform`). So the meter of a way is what the amounts of that way and the resets make
of it, and its total is the sum of the amounts since the last reset, as far as it fits a word
(`RateCounter.meter_counts_own_way`).
-/
namespace ProxyWarden.Traffic

/-- What is done with a counter. The moments may lie before those of earlier operations. -/
inductive RateCounter.Operation where
  | add (way : Way) (v now : Nat)
  | reset (now : Nat)
deriving DecidableEq, Repr

namespace RateCounter

variable {way : Way} {ops : List Operation}

def meter (c : RateCounter) : Way → Meter
  | .downlink => c.rx
  | .uplink => c.tx

def perform (c : RateCounter) : Operation → RateCounter
  | .add .downlink v now => c.addReceived v now
  | .add .uplink v now => c.addSent v now
  | .reset now => c.reset now

/-- The counter after operations, the latest first. -/
def after (c : RateCounter) : List Operation → RateCounter
  | [] => c
  | op :: ops => (c.after ops).perform op

namespace Operation

/-- Whether the operation has to do with a way: it counts that way, or resets the counter. -/
def concerns (op : Operation) (way : Way) : Bool :=
  match op with
  | add w _ _ => w == way
  | reset _ => true

/-- What the operation makes of a meter that it has to do with. -/
def run (op : Operation) (m : Meter) : Meter :=
  match op with
  | add _ v now => m.add v now
  | reset now => .startingAt now

end Operation

/-- The sum of the amounts counted one way since the last reset. -/
def counted (way : Way) : List Operation → Nat
  | [] => 0
  | .reset _ :: _ => 0
  | .add w v _ :: ops => if w = way then counted way ops + v else counted way ops

/-- An operation touches the meter of a way only if it has to do with that way. -/
theorem meter_perform (c : RateCounter) (op : Operation) (way : Way) :
    (c.perform op).meter way = if op.concerns way then op.run (c.meter way) else c.meter way := by
  cases op with
  | add w v now => cases w <;> cases way <;> rfl
  | reset now => cases way <;> rfl

theorem meter_after_filter (c : RateCounter) (ops : List Operation) (way : Way) :
    (c.after (ops.filter fun op => op.concerns way)).meter way = (c.after ops).meter way := by
  induction ops with
  | nil => rfl
  | cons op ops ih =>
      rw [after, meter_perform, List.filter_cons]
      split_ifs with hconcerns
      · rw [after, meter_perform, if_pos hconcerns, ih]
      · exact ih

theorem total_meter_after (start : Nat) (ops : List Operation) (way : Way) :
    (((startingAt start).after ops).meter way).total = min maxWord (counted way ops) := by
  induction ops with
  | nil => cases way <;> rfl
  | cons op ops ih =>
      rw [after, meter_perform]
      cases op with
      | reset now => rfl
      | add w v now =>
          rw [counted]
          by_cases hway : w = way
          · have hconcerns : (Operation.add w v now).concerns way = true := by
              simpa [Operation.concerns] using hway
            rw [if_pos hconcerns, if_pos hway, Operation.run, Meter.add]
            dsimp only
            rw [ih, addClamped]
            omega
          · have hconcerns : ¬ (Operation.add w v now).concerns way = true := by
              simpa [Operation.concerns] using hway
            rw [if_neg hconcerns, if_neg hway, ih]

def additions (amounts : List (Way × Nat × Nat)) : List Operation :=
  amounts.map fun a => .add a.1 a.2.1 a.2.2

theorem counted_le_additions (way : Way) (amounts : List (Way × Nat × Nat)) (ops : List Operation) :
    counted way ops ≤ counted way (additions amounts ++ ops) := by
  induction amounts with
  | nil => exact Nat.le_refl _
  | cons a amounts ih =>
      change counted way ops ≤ counted way (.add a.1 a.2.1 a.2.2 :: (additions amounts ++ ops))
      rw [counted]
      split_ifs
      · exact Nat.le_add_right_of_le ih
      · exact ih

/-- The total of a way is the sum of the amounts counted that way since the last reset, as far as it fits
a word, and does not fall as long as there is no reset. The whole meter of the way, with its rate and the
moment of its last amount, is the same without the operations of the other way. -/
theorem meter_counts_own_way (start : Nat) (ops : List Operation) (way : Way) :
    (((startingAt start).after ops).meter way).total = min maxWord (counted way ops) ∧
    (∀ amounts, (((startingAt start).after ops).meter way).total ≤
      (((startingAt start).after (additions amounts ++ ops)).meter way).total) ∧
    ((startingAt start).after ops).meter way =
      ((startingAt start).after (ops.filter fun op => op.concerns way)).meter way := by
  refine ⟨total_meter_after start ops way, ?_, (meter_after_filter _ ops way).symm⟩
  intro amounts
  have hle := counted_le_additions way amounts ops
  rw [total_meter_after, total_meter_after]
  omega

end RateCounter

end ProxyWarden.Traffic
