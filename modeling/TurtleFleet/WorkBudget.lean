import TurtleFleet.Settings

/-! How much command work fits into a tick. A monitor says whether another command may run and is
told what each one cost; the work budget is the monitor that counts nanoseconds. -/

namespace TurtleFleet

/-- The largest count of a 64-bit word. -/
def countCap : Nat := word64 - 1

/-- A sum of counts, held at the largest count. -/
def cappedAdd (first second : Nat) : Nat := min (first + second) countCap

/-- The record of the work done so far. -/
structure WorkStats where
  ticks : Nat := 0
  commandsExecuted : Nat := 0
  totalNanos : Nat := 0
  maxNanos : Nat := 0
  lastTickNanos : Nat := 0
  exhaustedTicks : Nat := 0
deriving DecidableEq, Repr, Inhabited

/-- The mean cost of a command, rounded down. -/
def WorkStats.averageNanos (stats : WorkStats) : Nat :=
  if stats.commandsExecuted = 0 then 0 else stats.totalNanos / stats.commandsExecuted

/-- What decides whether more command work fits into the current tick. -/
class WorkMonitor (M : Type) where
  beginTick : M → M
  /-- Whether another command may run now; asking may change the monitor. -/
  canWork : M → Bool × M
  /-- Takes note of a command that took so many nanoseconds. -/
  trackWork : M → Nat → M
  stats : M → WorkStats

/-- The nanoseconds that all turtles together may spend in one tick. -/
structure WorkBudget where
  /-- No allowance means that any amount may be spent. -/
  allowance : Option Nat
  spent : Nat := 0
  exhausted : Bool := false
  stats : WorkStats := {}
deriving DecidableEq, Repr

namespace WorkBudget

def unlimited : WorkBudget := { allowance := none }

def ofNanos (nanos : Nat) : WorkBudget := { allowance := some nanos }

def ofMillis (millis : Nat) : WorkBudget := ofNanos (min (millis * 1000000) countCap)

/-- The budget that the settings ask for; zero milliseconds ask for none. -/
def ofSettings (settings : Settings) : WorkBudget :=
  if settings.tickBudgetMs = 0 then unlimited else ofMillis settings.tickBudgetMs

/-- What may still be spent in this tick. -/
def remaining (budget : WorkBudget) : Option Nat := budget.allowance.map (· - budget.spent)

def canWork (budget : WorkBudget) : Bool :=
  match budget.allowance with
  | some allowance => budget.spent < allowance
  | none => true

def beginTick (budget : WorkBudget) : WorkBudget :=
  { budget with
    spent := 0
    exhausted := false
    stats := { budget.stats with ticks := cappedAdd budget.stats.ticks 1 } }

/-- Spends the cost of a command. The first command that leaves nothing to spend makes the tick an
exhausted one. -/
def trackWork (budget : WorkBudget) (nanos : Nat) : WorkBudget :=
  let spent := cappedAdd budget.spent nanos
  let stats := { budget.stats with
    commandsExecuted := cappedAdd budget.stats.commandsExecuted 1
    totalNanos := cappedAdd budget.stats.totalNanos nanos
    maxNanos := max budget.stats.maxNanos nanos
    lastTickNanos := spent }
  let after := { budget with spent, stats }
  if !budget.exhausted && !after.canWork then
    { after with
      exhausted := true
      stats := { stats with exhaustedTicks := cappedAdd stats.exhaustedTicks 1 } }
  else after

end WorkBudget

instance : WorkMonitor WorkBudget where
  beginTick := WorkBudget.beginTick
  canWork budget := (budget.canWork, budget)
  trackWork := WorkBudget.trackWork
  stats := WorkBudget.stats

end TurtleFleet
