import TurtleFleet.WorkBudget

/-! Work monitors for rehearsals, which do not depend on how long commands really take: one counts
commands, the other spends a budget by costs that are given beforehand. -/

namespace TurtleFleet

/-- A work budget whose `k`-th command costs the `k`-th of the given costs, over and over again. -/
structure CostedBudget where
  budget : WorkBudget
  costs : List Nat := []

namespace CostedBudget

def nextCost (costed : CostedBudget) : Nat :=
  costed.costs.getD (costed.budget.stats.commandsExecuted % costed.costs.length) 0

end CostedBudget

inductive RehearsalMonitor where
  /-- Allows so many commands in each tick, of which some were run. -/
  | commands (limit executed : Nat)
  | costed (costed : CostedBudget)

instance : WorkMonitor RehearsalMonitor where
  beginTick
    | .commands limit _ => .commands limit 0
    | .costed costed => .costed { costed with budget := costed.budget.beginTick }
  canWork
    | .commands limit executed => (executed < limit, .commands limit executed)
    | .costed costed => (costed.budget.canWork, .costed costed)
  trackWork
    | .commands limit executed, _ => .commands limit (executed + 1)
    | .costed costed, _ =>
      .costed { costed with budget := costed.budget.trackWork costed.nextCost }
  stats
    | .commands .. => {}
    | .costed costed => costed.budget.stats

end TurtleFleet
