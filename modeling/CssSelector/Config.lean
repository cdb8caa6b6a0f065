import CssSelector.Record

set_option autoImplicit false

namespace CssSelector

/-- The symbol for the combinator that is a mere space, the separator between the kind and the value
of a part, and the name of the least level of reports. -/
structure Config where
  descendantAlias : String := "_"
  kindSeparator : String := ":"
  logLevel : String := "WARNING"
deriving DecidableEq

namespace Config

/-- The combinator that a symbol stands for: itself, or a space for the alias. -/
def combinator (config : Config) (symbol : String) : String :=
  if symbol = config.descendantAlias then " " else symbol

def fields (config : Config) : List (String × FieldValue) :=
  [("descendant_alias", .text config.descendantAlias),
   ("kind_separator", .text config.kindSeparator),
   ("log_level", .text config.logLevel)]

def describe (config : Config) : String :=
  describeRecord "BuilderConfig" config.fields

end Config

end CssSelector
