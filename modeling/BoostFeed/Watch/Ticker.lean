/-! Periodic ticks under a clock in milliseconds. The first comes at once. -/

namespace BoostFeed.Watch

structure Ticker where
  period : Nat
  /-- When the next tick comes. -/
  due : Nat
deriving DecidableEq

namespace Ticker

/-- How late a tick may be without moving the ones after it. -/
def lateness : Nat := 5

def start (period now : Nat) : Ticker := ⟨period, now⟩

/-- The ticker after a tick, if one is due. Ticks that were missed do not come again. -/
def tick? (t : Ticker) (now : Nat) : Option Ticker :=
  if now < t.due then none
  else some { t with due := (if t.due + lateness < now then now else t.due) + t.period }

end Ticker

end BoostFeed.Watch
