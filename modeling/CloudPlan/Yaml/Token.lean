/-!
# Tokens of YAML

The indentation of block collections shows in the tokens: their start and end are tokens of their
own, and so is the start of every key, even where the text has no indicator for it.
-/

set_option autoImplicit false

namespace CloudPlan.Yaml

/-- A tag as written: its handle and the octets that follow it. -/
structure RawTag where
  handle : String
  suffix : List UInt8
deriving DecidableEq, Repr

/-- A token. -/
inductive Token where
  | versionDirective (major minor : Nat)
  | tagDirective (handle : String) (expansion : List UInt8)
  | documentStart
  | documentEnd
  | blockSequenceStart
  | blockMappingStart
  | blockEnd
  | flowSequenceStart
  | flowSequenceEnd
  | flowMappingStart
  | flowMappingEnd
  | blockEntry
  | flowEntry
  | key
  | value
  | alias (name : String)
  | anchor (name : String)
  | tag (tag : RawTag)
  | scalar (plain : Bool) (text : String)
deriving DecidableEq, Repr

end CloudPlan.Yaml
