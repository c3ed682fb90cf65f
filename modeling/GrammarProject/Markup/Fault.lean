import GrammarProject.Markup.Position
import GrammarProject.Text.Encoding

/-!
# Faults

What is wrong with a document and where. `Fault.message` is the one place for the wording.
-/

namespace GrammarProject.Markup

/-- What is wrong with a document. -/
inductive Reason where
  | syntaxError
  | noElement
  | invalidToken
  | unclosedToken
  | partialCharacter
  | mismatchedTag
  | duplicateAttribute
  | junkAfterRoot
  | parameterReference
  | undefinedEntity
  /-- An entity that a part of the document type declaration that is not read might declare. -/
  | unreadEntity (name : List Char)
  | recursiveEntity
  | asynchronousEntity
  | badCharacterNumber
  | unparsedEntity
  | externalEntityInAttribute
  | misplacedDeclaration
  | unknownByteEncoding
  | incorrectEncoding
  | unclosedSection
  | unboundPrefix
  | undeclaredPrefix
  | malformedDeclaration
  | publicIdCharacter
  | reservedXmlPrefix
  | reservedXmlnsPrefix
  | reservedNamespace
  /-- The entities make up more text than the parser takes. -/
  | overflow
deriving DecidableEq, Repr

/-- At most this many bytes of a reference are shown. -/
def shownReferenceLimit : Nat := 100

/-- The start of a text, up to a number of UTF-8 bytes; a character that is cut is shown as one
that does not decode. -/
def shownStart (limit : Nat) (cs : List Char) : List Char :=
  (Text.Encoding.utf8 false).decode ((String.ofList cs).toUTF8.toList.take limit)

def Reason.message : Reason → String
  | syntaxError => "syntax error"
  | noElement => "no element found"
  | invalidToken => "not well-formed (invalid token)"
  | unclosedToken => "unclosed token"
  | partialCharacter => "partial character"
  | mismatchedTag => "mismatched tag"
  | duplicateAttribute => "duplicate attribute"
  | junkAfterRoot => "junk after document element"
  | parameterReference => "illegal parameter entity reference"
  | undefinedEntity => "undefined entity"
  | unreadEntity name =>
    "undefined entity " ++ String.ofList (shownStart shownReferenceLimit ('&' :: name ++ [';']))
  | recursiveEntity => "recursive entity reference"
  | asynchronousEntity => "asynchronous entity"
  | badCharacterNumber => "reference to invalid character number"
  | unparsedEntity => "reference to binary entity"
  | externalEntityInAttribute => "reference to external entity in attribute"
  | misplacedDeclaration => "XML or text declaration not at start of entity"
  | unknownByteEncoding => "unknown encoding"
  | incorrectEncoding => "encoding specified in XML declaration is incorrect"
  | unclosedSection => "unclosed CDATA section"
  | unboundPrefix => "unbound prefix"
  | undeclaredPrefix => "must not undeclare prefix"
  | malformedDeclaration => "XML declaration not well-formed"
  | publicIdCharacter => "illegal character(s) in public id"
  | reservedXmlPrefix =>
    "reserved prefix (xml) must not be undeclared or bound to another namespace name"
  | reservedXmlnsPrefix => "reserved prefix (xmlns) must not be declared or undeclared"
  | reservedNamespace => "prefix must not be bound to one of the reserved namespace names"
  | overflow => "limit on input amplification factor (from DTD and entities) breached"

/-- What is wrong with a document, and where. -/
structure Fault where
  reason : Reason
  place : Position
deriving DecidableEq, Repr

def Fault.message (f : Fault) : String :=
  f.reason.message ++ ": line " ++ toString f.place.line ++ ", column " ++ toString f.place.column

end GrammarProject.Markup
