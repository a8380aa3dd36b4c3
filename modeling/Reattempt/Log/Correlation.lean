/-! Correlation identifiers. An identifier holds for the rest of the current scope.
A copied scope starts with the identifier of the scope it was copied from and a new
thread with none; neither has an effect outside. -/

namespace Reattempt

inductive CorrelationStep where
  | set (identifier : String)
  | clear
  | get
  | log
  | inCopy (steps : List CorrelationStep)
  | inThread (steps : List CorrelationStep)
  deriving Inhabited

/-- What a step shows: nothing, the identifier in force, the identifier under which
a record was written, or the answers of inner steps. -/
inductive CorrelationAnswer where
  | nothing
  | current (identifier : Option String)
  | logged (identifier : Option String)
  | inner (answers : List CorrelationAnswer)
  deriving Inhabited

namespace CorrelationStep

mutual
def run (current : Option String) : CorrelationStep → CorrelationAnswer × Option String
  | .set identifier => (.nothing, some identifier)
  | .clear => (.nothing, none)
  | .get => (.current current, current)
  | .log => (.logged current, current)
  | .inCopy steps => (.inner (runAll current steps), current)
  | .inThread steps => (.inner (runAll none steps), current)

def runAll (current : Option String) : List CorrelationStep → List CorrelationAnswer
  | [] => []
  | step :: rest =>
      let (answer, next) := run current step
      answer :: runAll next rest
end

end CorrelationStep

end Reattempt
