import Rulebook.Rule.ReadError
import Rulebook.Rule.Structure

namespace Rulebook

inductive Mistake
  | unreadable (e : ReadError)
  | defect (d : Defect)
  | openBracket
  | noType
  | emptyCall
  | openCall (name : String)
  | unknownType (name : String)
  | unknownFunction (name typeName : String)
  | argumentCount (function : String) (expected : Nat)
  | pattern (text why : String)
  | other (text : String)
deriving DecidableEq, Repr

/-- Context or arguments that are absent or of the wrong type. -/
inductive Absence
  | contextKey (key : String)
  | contextKind (key : String)
  | argument (function : String) (index : Nat)
  | integerArgument (index : Nat)
  | other (text : String)
deriving DecidableEq, Repr

inductive UrlFault
  | blank
  | noProtocol
  | badProtocol
  | noDot
  | badPort
  | emptyHost
  | badIpv4
  | badIpv6
  | badDomainName
deriving DecidableEq, Repr

inductive Reason
  | wrongKind (typeName : String)
  | notString
  | notInteger
  | notDict
  | unreadableInteger
  | unreadableBool
  | unkeyedText
  | noSeparator
  | url (f : UrlFault)
  | lengthOutside (least greatest : Int)
  | includesNone (words : List String)
  | notAlphanumeric
  | notAmong (phrases : List String)
  | patternFailed (pattern : String)
  | outside (least greatest : Int)
  | notLess (bound : Int)
  | notGreater (bound : Int)
  | badKey (key : String) (reasons : List Reason)
  | badEntry (key : String) (reasons : List Reason)
  | missingKey (key : String)
  | other (text : String)

inductive Fault
  | mistake (m : Mistake)
  | absence (a : Absence)
  | invalid (r : Reason)

def Mistake.message : Mistake → String
  | .unreadable e => e.message
  | .defect d => d.message
  | .openBracket => "unmatched '['"
  | .noType => "check is missing a rule type"
  | .emptyCall => "empty function in check"
  | .openCall name => "unmatched ')' for function " ++ name
  | .unknownType name => "rule type " ++ name ++ " doesn't exist"
  | .unknownFunction name type => "function " ++ name ++ " doesn't exist for rule type " ++ type
  | .argumentCount function n =>
    "function " ++ function ++ " requires " ++ toString n ++ " argument" ++
      (if n = 1 then "" else "s")
  | .pattern text why => "invalid regex " ++ text ++ ": " ++ why
  | .other text => text

def Absence.message : Absence → String
  | .contextKey key => "missing context key " ++ key
  | .contextKind key => "context key " ++ key ++ " is of the wrong type"
  | .argument function i =>
    "function " ++ function ++ "'s " ++ toString i ++ "-index argument is of the wrong type"
  | .integerArgument i => toString i ++ "-index argument is not an integer"
  | .other text => text

def UrlFault.message : UrlFault → String
  | .blank => "URL cannot have whitespace in it - is it properly encoded?"
  | .noProtocol => "Missing protocol (http:// or https://)"
  | .badProtocol => "Invalid protocol (must be http or https)"
  | .noDot => "Invalid domain"
  | .badPort => "Invalid url: invalid port number"
  | .emptyHost => "Invalid url: empty host"
  | .badIpv4 => "Invalid url: invalid IPv4 address"
  | .badIpv6 => "Invalid url: invalid IPv6 address"
  | .badDomainName => "Invalid url: invalid international domain name"

mutual

def Reason.message : Reason → String
  | .wrongKind type => "pre-parsed input is not of a valid type for rule " ++ type
  | .notString => "Value isn't a string"
  | .notInteger => "Value isn't an integer"
  | .notDict => "Value isn't a dict"
  | .unreadableInteger => "Unable to convert to int"
  | .unreadableBool => "Unable to convert into bool"
  | .unkeyedText => "Initial value has no key."
  | .noSeparator => "Value contains no separators ('==')."
  | .url f => f.message
  | .lengthOutside lo hi =>
    "Value's length isn't within bounds: " ++ toString lo ++ " to " ++ toString hi
  | .includesNone words =>
    "Value doesn't include any of required words: " ++ ", ".intercalate words
  | .notAlphanumeric => "Value isn't alphanumeric"
  | .notAmong phrases => "Value isn't one of required phrases: " ++ ", ".intercalate phrases
  | .patternFailed p => "Value failed regex check: " ++ p
  | .outside lo hi => "Value is outside of bounds: " ++ toString lo ++ " to " ++ toString hi
  | .notLess n => "Value isn't less than " ++ toString n
  | .notGreater n => "Value isn't greater than " ++ toString n
  | .badKey key reasons =>
    "Validation failed key name " ++ key ++ ": " ++ ", ".intercalate (messagesOf reasons)
  | .badEntry key reasons =>
    "Validation failed for value of " ++ key ++ ": " ++ ", ".intercalate (messagesOf reasons)
  | .missingKey key => "Missing key '" ++ key ++ "'."
  | .other text => text

def messagesOf : List Reason → List String
  | [] => []
  | r :: rs => r.message :: messagesOf rs

end

def Fault.message : Fault → String
  | .mistake m => "invalid rule: " ++ m.message
  | .absence a => "missing data: " ++ a.message
  | .invalid r => r.message

end Rulebook
