/-!
# Generations of the export format

The number of the build that wrote an export tells which generation of the format it follows. The
third generation is the old one, whose documents and indexes have rules of their own.
-/

namespace ExportStream

/-- A generation of the format. -/
inductive Generation where
  /-- The export does not name its build. -/
  | unknown
  /-- The third generation. -/
  | v3
  /-- The fourth generation. -/
  | v4
  /-- Every later one. -/
  | current
  deriving DecidableEq

namespace Generation

/-- The generation of a build. -/
def ofBuild (n : Int) : Generation :=
  let within (a b : Int) : Bool := a ≤ n && n ≤ b
  if n = 0 then .unknown
  else if within 30 39 || within 3000 3999 || within 30000 39999 then .v3
  else if within 40 49 || within 40000 49999 then .v4
  else .current

/-- The name of a generation. -/
def name : Generation → String
  | .unknown => "Unknown"
  | .v3 => "V3"
  | .v4 => "V4"
  | .current => "Current"

/-- Every generation. -/
def all : List Generation := [.unknown, .v3, .v4, .current]

/-- The generation with a name. -/
def ofName? (n : String) : Option Generation := all.find? fun g => g.name = n

/-- Do the rules of the old format hold? -/
def isLegacy (g : Generation) : Bool := g = .v3

end Generation

end ExportStream
