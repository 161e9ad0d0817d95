import RoleGuard.Defect

/-! # Problems of a Text

    Why a text is not a stream of documents. Reading stops at the first
    problem. A text can also hold a scalar that names a value which does not
    exist; that is a defect and no problem of the text.
-/

namespace RoleGuard.Yaml

/-- What is wrong with a text. -/
inductive Problem where
  /-- a character that no document holds -/
  | unprintable (c : Char)
  /-- a character that starts no token -/
  | strayCharacter (c : Char)
  /-- a key without its colon -/
  | missingColon
  /-- an entry, key or value where none may stand -/
  | misplaced (what : String)
  /-- a malformed directive -/
  | directive
  /-- a malformed anchor or alias -/
  | anchor
  /-- a malformed tag -/
  | tag
  /-- a malformed head of a block scalar -/
  | blockHead
  /-- an unknown escape -/
  | escape
  /-- a quoted scalar that does not end -/
  | unclosedQuote
  /-- a document mark within a quoted scalar -/
  | markInQuote
  /-- a token where another is needed -/
  | unexpected (needed : String)
  /-- a second version directive -/
  | repeatedVersion
  /-- a version other than 1 -/
  | version (major : Nat)
  /-- a second directive for a tag handle -/
  | repeatedHandle (handle : String)
  /-- a tag handle without a directive -/
  | unknownHandle (handle : String)
  /-- an alias without an anchor -/
  | unknownAlias (name : String)
  /-- a second anchor of one name -/
  | repeatedAnchor (name : String)
  /-- a tag that no value has -/
  | unknownTag (tag : String)
  /-- a node of the wrong kind for its tag -/
  | wrongKind (needed : String)
  /-- a key that is a collection -/
  | collectionKey
  /-- a merge of something that is no mapping -/
  | badMerge
  /-- binary data that is not base 64 -/
  | notBase64
deriving Repr

/-- The wording of a problem. -/
def Problem.message : Problem → String
  | unprintable c => "unacceptable character " ++ Text.quote (String.singleton c)
  | strayCharacter c =>
    "found character " ++ Text.quote (String.singleton c) ++ " that cannot start any token"
  | missingColon => "could not find expected ':'"
  | misplaced what => what ++ " are not allowed here"
  | directive => "found a malformed directive"
  | anchor => "found a malformed anchor or alias"
  | tag => "found a malformed tag"
  | blockHead => "expected chomping or indentation indicators"
  | escape => "found an unknown escape"
  | unclosedQuote => "found unexpected end of stream within a quoted scalar"
  | markInQuote => "found unexpected document separator within a quoted scalar"
  | unexpected needed => "expected " ++ needed
  | repeatedVersion => "found duplicate YAML directive"
  | version major => "found incompatible YAML version " ++ toString major
  | repeatedHandle handle => "duplicate tag handle " ++ Text.quote handle
  | unknownHandle handle => "found undefined tag handle " ++ Text.quote handle
  | unknownAlias name => "found undefined alias " ++ Text.quote name
  | repeatedAnchor name => "found duplicate anchor " ++ Text.quote name
  | unknownTag name => "could not determine a constructor for the tag " ++ Text.quote name
  | wrongKind needed => "expected " ++ needed
  | collectionKey => "found unhashable key"
  | badMerge => "expected a mapping or list of mappings for merging"
  | notBase64 => "failed to decode base64 data"

/-- Why reading a text ends early. -/
inductive Failure where
  /-- the text is no stream of documents -/
  | problem (p : Problem)
  /-- a scalar names a value that does not exist -/
  | defect (d : Defect)

end RoleGuard.Yaml
