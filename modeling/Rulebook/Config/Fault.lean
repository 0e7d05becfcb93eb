import Rulebook.Fault
import Rulebook.Rule.Reading

namespace Rulebook

/-- The greatest limits that settings may ask for. Every limit is at least 1. -/
def ceiling : Limits := ⟨1048576, 128⟩

inductive Refusal
  | ruleBytes
  | nestingDepth
  | noLogPath
  | needlessLogPath
  | blankLogPath
  | longLogPath
  | longLogComponent
  | longPath
  | longComponent
  | largeFile
  | badEncoding
  | schemaEntry (key : String)
  | badRule (key : String) (f : Fault)
  | failedRule (key : String) (f : Fault)

/-- A file that cannot be read or opened, text of the wrong form, or a refusal. The first two are
put into words by the system and by the library that reads TOML. -/
inductive ConfigFault
  | inaccessible {why : String}
  | malformed {why : String}
  | refused (r : Refusal)

/-- What libraries say of a text that is not TOML for settings, not TOML at all, or not JSON. -/
class Wording where
  settings : String → String
  document : String → String
  json : String → String

def Refusal.message : Refusal → String
  | .ruleBytes => "limits.max_rule_bytes must be between 1 and " ++ toString ceiling.bytes
  | .nestingDepth => "limits.max_nesting_depth must be between 1 and " ++ toString ceiling.depth
  | .noLogPath => "audit.path is required for the file sink"
  | .needlessLogPath => "audit.path is only valid for the file sink"
  | .blankLogPath => "audit.path must be non-empty"
  | .longLogPath => "audit.path exceeds max length"
  | .longLogComponent => "audit.path path component too long"
  | .longPath => "config path exceeds max length"
  | .longComponent => "config path component too long"
  | .largeFile => "config file exceeds size limit"
  | .badEncoding => "config file must be utf-8"
  | .schemaEntry key =>
    "schema entry '" ++ key ++ "' must be a rule string or a table with `rule`"
  | .badRule key f => "rule for key '" ++ key ++ "' is invalid: " ++ f.message
  | .failedRule key f => "rule for key '" ++ key ++ "' failed: " ++ f.message

def ConfigFault.message : ConfigFault → String
  | @inaccessible why => "config io error: " ++ why
  | @malformed why => "config parse error: " ++ why
  | .refused r => "invalid config: " ++ r.message

end Rulebook
