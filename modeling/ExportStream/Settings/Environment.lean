/-!
# The environment

The variables that the surroundings of the program set for it.
-/

namespace ExportStream

/-- The values of variables, by name. -/
abbrev Environment := List (String × String)

namespace Environment

/-- The value of a variable. -/
def value? (e : Environment) (name : String) : Option String := e.lookup name

end Environment

end ExportStream
