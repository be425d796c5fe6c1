/-!
# YAML tokens

The tokens of a YAML stream. Indentation has become start and end tokens of blocks, and every key of a
mapping has a token in front of it, although nothing in the text need mark a key before its colon.
-/

namespace PodLayers.Yaml

/-- How a scalar is written. -/
inductive Style
  | plain
  | quoted
  | block
  /-- A folded block whose lines have no indentation, as no node may be written. -/
  | unindented
deriving DecidableEq, Repr

inductive Token
  | version
  | tagHandle (handle uri : String)
  | documentStart
  | documentEnd
  | blockSequence
  | blockMapping
  | blockEnd
  | flowSequence
  | flowSequenceEnd
  | flowMapping
  | flowMappingEnd
  | blockEntry
  | flowEntry
  | key
  | value
  | reference (name : String)
  | anchor (name : String)
  | tag (handle suffix : String)
  | scalar (style : Style) (text : String)
  | streamEnd
deriving DecidableEq, Repr

/-- What is wrong with a YAML text. -/
inductive Problem
  | badIndentation
  | tabIndentation
  | misplacedEntry
  | misplacedKey
  | misplacedValue
  | keyWithoutValue
  | badComment
  | badDirective
  | badAnchor
  | badTag
  | badEscape
  | badScalar
  | badBinary
  | missingIndentation
  | unclosedScalar
  | reservedCharacter
  | trailingContent
  | unexpectedToken
  | unknownAnchor
  | unknownHandle
  | deepNesting
  | manyReferences
  | keyNotScalar
  | repeatedKey
  | badMerge
  | unsupportedTag
  | severalDocuments
  | strayBrackets
deriving DecidableEq, Repr

def Problem.message : Problem → String
  | .badIndentation => "invalid indentation"
  | .tabIndentation => "tabs cannot indent a block"
  | .misplacedEntry => "an entry of a sequence is not allowed here"
  | .misplacedKey => "a key is not allowed here"
  | .misplacedValue => "a value is not allowed here"
  | .keyWithoutValue => "a key without a colon"
  | .badComment => "a comment must follow a blank"
  | .badDirective => "invalid directive"
  | .badAnchor => "invalid anchor"
  | .badTag => "invalid tag"
  | .badEscape => "invalid escape"
  | .badScalar => "invalid scalar"
  | .badBinary => "invalid base64"
  | .missingIndentation => "a folded scalar must be indented"
  | .unclosedScalar => "unclosed scalar"
  | .reservedCharacter => "reserved character"
  | .trailingContent => "content after the end of a token"
  | .unexpectedToken => "unexpected token"
  | .unknownAnchor => "unknown anchor"
  | .unknownHandle => "unknown tag handle"
  | .deepNesting => "too many levels"
  | .manyReferences => "too many references"
  | .keyNotScalar => "a key is not a scalar"
  | .repeatedKey => "a key is repeated"
  | .badMerge => "a merged value is not a mapping"
  | .unsupportedTag => "unsupported tag"
  | .severalDocuments => "more than one document"
  | .strayBrackets => "stray brackets"

end PodLayers.Yaml
