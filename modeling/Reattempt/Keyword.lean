/-! Named arguments. An operation refuses a name that stands for a parameter it has
got already, and one that it does not know. -/

namespace Reattempt.Keyword

/-- The parameter that every operation of an object has got already. -/
def owner : String := "self"

def givenTwice (operation name : String) : String :=
  s!"{operation}() got multiple values for argument '{name}'"

def unknown (operation name : String) : String :=
  s!"{operation}() got an unexpected keyword argument '{name}'"

/-- Why an operation of an object refuses a name that none of its other parameters
has. -/
def refused (operation name : String) : String :=
  if name = owner then givenTwice operation name else unknown operation name

end Reattempt.Keyword
