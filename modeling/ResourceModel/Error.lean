import ResourceModel.Json.Basic
import ResourceModel.Path

set_option autoImplicit false

/-! # Errors

What can be wrong with an asset, a declaration or a run, and the text that tells it. Every error is
fatal for the operation that meets it. -/

namespace ResourceModel

/-- What is wrong with a declaration. -/
inductive Defect where
  | missingKey (key : String)
  | notList (key : String)
  | notMapping (key : String)
  | notName (key : String)
  | entryNotMapping
  | undeclaredField
  | undeclaredLink (name field : String)
  | undeclaredItem (field : String)
  | noReference
  | unknownAnnotationType (type : String)
  | unknownParameter (type : String)
  | documentNotMapping
  | nodeCount (count : Nat)
  | unknownNodeKind (kind : String)
  | invalidKey (key : String)
  | emptyKey
  | invalidVersion (text : String)
  | noParameter
  | referencesNotList
  | referenceWithoutNode
  | referenceNodeShape
  | referenceNodeEntry
  | referenceWithoutField
  | undeclaredDirectory (name : String)
  deriving DecidableEq, Repr

/-- The text of a defect. -/
def Defect.text : Defect → String
  | missingKey key => "required key '" ++ key ++ "' is missing"
  | notList key => "'" ++ key ++ "' must be a list"
  | notMapping key => "'" ++ key ++ "' must be a mapping"
  | notName key => "'" ++ key ++ "' must be a name"
  | entryNotMapping => "each entry must be a mapping"
  | undeclaredField => "field is not declared in the schema"
  | undeclaredLink name field => "'" ++ name ++ "' is not declared under '" ++ field ++ "'"
  | undeclaredItem field => "'" ++ field ++ "' is not declared"
  | noReference => "linked field carries no reference"
  | unknownAnnotationType type => "unknown annotation type '" ++ type ++ "'"
  | unknownParameter type => "unknown parameter type '" ++ type ++ "'"
  | documentNotMapping => "a declaration must be a mapping"
  | nodeCount count => "exactly one node must be declared per file, found " ++ natText count
  | unknownNodeKind kind => "unknown node kind '@" ++ kind ++ "'"
  | invalidKey key => "invalid node key '" ++ key ++ "'"
  | emptyKey => "empty node key"
  | invalidVersion text => "invalid version '" ++ text ++ "'"
  | noParameter => "a dynamic node requires 'Parameter'"
  | referencesNotList => "'Reference' must be a list"
  | referenceWithoutNode => "'Node' is required in a reference"
  | referenceNodeShape => "'Node' must be a name or a list of names"
  | referenceNodeEntry => "'Node' list entries must be names"
  | referenceWithoutField => "'Field' is required when 'Node' is a list"
  | undeclaredDirectory name => "no node '" ++ name ++ "' is declared next to this directory"

/-- What is wrong with a schema document. -/
inductive Damage where
  | notJson
  | missingDefinition (owner : String)
  | noDeclarations
  | noEnumValues (field : String)
  | missingNodeDefinition (schema : String)
  | undeclared (field : String)
  deriving DecidableEq, Repr

/-- The text of a damage. -/
def Damage.text : Damage → String
  | notJson => "<json>"
  | missingDefinition owner => "definition of '" ++ owner ++ "' is missing"
  | noDeclarations => "neither definitions nor properties are declared"
  | noEnumValues field => "'" ++ field ++ "' declares no enum values"
  | missingNodeDefinition schema => "'definitions." ++ schema ++ "' is missing"
  | undeclared field => "'" ++ field ++ "' is not declared"

/-- Why something cannot be looked up. -/
inductive LookupFault where
  | invalidReference (raw : String)
  | namesNoDocument (raw : String)
  | noEnumValue (value name : String)
  deriving DecidableEq, Repr

/-- The text of a lookup fault. -/
def LookupFault.text : LookupFault → String
  | invalidReference raw => "invalid reference '" ++ raw ++ "': <url>"
  | namesNoDocument raw => "reference '" ++ raw ++ "' does not name a document"
  | noEnumValue value name => "value '" ++ value ++ "' is not a valid enum of type '" ++ name ++ "'"

/-- An error. -/
inductive Error where
  | unsupportedStandard (name : String)
  | missingSchema (node : String)
  | missingDocument (path : Path) (suggestion : Option String)
  | malformed (subject : String) (defect : Defect)
  | invalidTemplate (template link : String)
  | nestingTooDeep (depth : Nat)
  | undeclaredId (segment classname id : String)
  | corrupted (schema : String) (damage : Damage)
  | unresolved (name : String)
  | lookup (fault : LookupFault)
  | notConverged (passes : Nat) (pending : List String)
  | file
  | notText
  | yaml
  | xml
  | walk
  | configuration
  deriving DecidableEq, Repr

/-- The text of an error; none for an error whose wording is left to the reader of the format. -/
def Error.message? : Error → Option String
  | unsupportedStandard name => some ("API standard \"" ++ name ++ "\" is not supported")
  | missingSchema node =>
    some ("Node config '" ++ node ++ "': required field 'Schema' is missing")
  | missingDocument path none => some ("Schema document not found: " ++ path.text)
  | missingDocument path (some name) =>
    some ("Schema document not found: " ++ path.text ++ " (did you mean '" ++ name ++ "'?)")
  | malformed subject defect =>
    some ("Invalid declaration of " ++ subject ++ ": " ++ defect.text)
  | invalidTemplate template link =>
    some ("Invalid template (" ++ template ++ ") of link (" ++ link ++ ") specified")
  | nestingTooDeep depth =>
    some ("Unable to find all inner schemas in properties, max nesting depth reached: " ++
      natText depth)
  | undeclaredId segment classname id =>
    some ("The node config '" ++ segment ++ "' is not valid to specified schema " ++ classname ++
      ": id " ++ id ++ " is not declared")
  | corrupted schema damage => some ("Schema '" ++ schema ++ "' is corrupted: " ++ damage.text)
  | unresolved name => some ("Could not resolve fragment of " ++ name)
  | lookup fault => some ("Lookup failed: " ++ fault.text)
  | notConverged passes pending =>
    some ("Schema closure did not converge after " ++ natText passes ++ " passes, pending: " ++
      String.intercalate ", " pending)
  | file | notText | yaml | xml | walk | configuration => none

end ResourceModel
