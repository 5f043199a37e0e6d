/-!
A ticker, which goes off again and again after equal periods.

It goes off for the first time as soon as it is started. A period of no length cannot be waited
for, so there is no such ticker.
-/

namespace MeshControl

/-- A ticker. Times are in milliseconds. -/
structure Ticker where
  period : Nat
  /-- When it goes off next. -/
  due : Nat
  /-- Time passes between going off and going off again. -/
  period_pos : 0 < period
deriving DecidableEq

namespace Ticker

def start (now period : Nat) : Option Ticker :=
  if period_pos : 0 < period then some ⟨period, now, period_pos⟩ else none

/-- The ticker after it went off. Whoever waits for it is there in time, so that no period is left
out. -/
def strike (ticker : Ticker) : Ticker :=
  { ticker with due := ticker.due + ticker.period }

@[simp]
theorem period_strike (ticker : Ticker) : ticker.strike.period = ticker.period := rfl

@[simp]
theorem due_strike (ticker : Ticker) : ticker.strike.due = ticker.due + ticker.period := rfl

theorem due_lt_due_strike (ticker : Ticker) : ticker.due < ticker.strike.due :=
  Nat.lt_add_of_pos_right ticker.period_pos

end Ticker

end MeshControl
