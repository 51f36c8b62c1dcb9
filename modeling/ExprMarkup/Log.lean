import ExprMarkup.Interpret

namespace ExprMarkup.Log

def program : String := "plumas"

/-- The name of a logger: one that does not lie below the program's own gets its name in front. -/
def loggerName (name : String) : String :=
  if name == program || (program ++ ".").toList.isPrefixOf name.toList then name
  else program ++ "." ++ name

structure Record where
  logger : String
  message : String
  deriving DecidableEq

/-- Building a registry is recorded with the number of its names. -/
def registryBuilt (r : Registry) : Record :=
  ⟨loggerName "registry", "Built renderer registry with " ++ Decimal.intText r.size ++ " names"⟩

/-- Of the events of a rendering, the choices of a fallback are recorded. -/
def ofEvent : Event → Option Record
  | .fallback head =>
    some ⟨loggerName "interpreter", "No renderer for " ++ Text.quoted head ++ ", using fallback"⟩
  | .invoked _ _ _ _ _ _ => none

def ofEvents (events : List Event) : List Record := events.filterMap ofEvent

end ExprMarkup.Log
