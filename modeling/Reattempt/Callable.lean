/-! Functions supplied by the caller. The library can call one and print it; it
tells them apart by number and knows nothing else about them. -/

namespace Reattempt

structure Callable where
  number : Nat
  shown : String
  deriving DecidableEq, Repr

end Reattempt
