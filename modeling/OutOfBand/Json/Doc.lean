import OutOfBand.Json.Numeral

/-!
# JSON documents

A `Doc` is a JSON text as far as it can be read: a tree in the order of the text that ends where the
text breaks off or stops being JSON. Keeping the readable part lets a reader of a type report
whichever fault comes first in the text, one of the text or one of the type.

Two standards of reading differ in what they ask of a text. A value that is wanted is read strictly:
its strings must be well-formed, its numbers within range, and it may lie only so deep. A value that
is skipped must merely have the shape of JSON.
-/

namespace OutOfBand.Json

/-- How a text fails to be JSON: it ends too early, or it holds what cannot stand there. -/
inductive Breach where
  | cutShort
  | malformed
  deriving DecidableEq, Repr, Inhabited

/-- How the list of the parts of an array or an object ends in the text. -/
inductive Ending where
  /-- With its closing bracket. -/
  | closed
  /-- With a fault in place of a comma or the closing bracket. -/
  | broken (breach : Breach)
  /-- With a fault after a comma. -/
  | comma (breach : Breach)
  /-- With a fault in a key: for a strict reader, and for one that skips. -/
  | key (strict skipped : Breach)
  deriving DecidableEq, Repr, Inhabited

/-- A JSON text as far as it can be read. -/
inductive Doc where
  | null
  | bool (b : Bool)
  | num (numeral : Numeral)
  | text (content : Except Breach String)
  | arr (items : List Doc) (ending : Ending)
  | obj (members : List (Except Breach String × Doc)) (ending : Ending)
  /-- An array or object that lies too deep for a strict reader. -/
  | deep (inner : Doc)
  /-- A word or a numeral that is not complete: whether it begins as `null` does, and the fault for
  a strict reader and for one that skips. -/
  | stump (isNull : Bool) (strict skipped : Breach)
  /-- Nothing else that can be read: the fault for a strict reader, and for one that skips. -/
  | broken (strict skipped : Breach)
  deriving Inhabited

/-- The deepest level at which arrays and objects are read strictly. -/
def maxDepth : Nat := 127

end OutOfBand.Json
