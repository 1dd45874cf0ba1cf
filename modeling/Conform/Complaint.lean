import Conform.Double.Reader

/-!
# Complaints about data

Data that is read into a tag, a schema node or a setting may not have the form that is asked for.
A complaint says what is wrong and where: the location lists field names, positions and keys from
the outside in.
-/

namespace Conform

/-- What is wrong with a piece of data. -/
inductive Complaint.Cause where
  /-- A field that has to be there is not. -/
  | required
  /-- The data is no text. -/
  | notString
  /-- The data is no truth value and no other spelling of one. -/
  | notBool
  /-- The data has the form of a spelling of a truth value, but is none. -/
  | unreadableBool
  /-- The data is no list. -/
  | notList
  /-- The data is no object. -/
  | notObject
  /-- The data is no object, where a schema node is asked for. -/
  | notNode
  /-- The data is neither a list nor an object, where a tag is asked for. -/
  | notTag
  /-- A list that stands for a tag has neither one item nor two. -/
  | tagLength (n : Nat)
  /-- Nothing is left of a tag's name. -/
  | emptyName
  /-- A tag's argument cannot be written as a document. -/
  | unwritable
  /-- An integer in a tag's argument is too long to be written. -/
  | integerTooLongToWrite
  /-- A text is no integer. -/
  | notInteger
  /-- A text is too long to be read as an integer. -/
  | integerTooLong
  /-- An integer is less than one. -/
  | notPositive
  deriving DecidableEq, Repr

/-- The words for a cause. -/
def Complaint.Cause.message : Complaint.Cause → String
  | required => "Field required"
  | notString => "Input should be a valid string"
  | notBool => "Input should be a valid boolean"
  | unreadableBool => "Input should be a valid boolean, unable to interpret input"
  | notList => "Input should be a valid list"
  | notObject => "Input should be a valid dictionary"
  | notNode => "Input should be a valid dictionary or instance of JsonType"
  | notTag => "Input should be a valid dictionary or instance of Tag"
  | tagLength n => s!"Value error, tag must be a [name, argument] pair, got {n} items"
  | emptyName => "Value error, tag name must not be empty"
  | unwritable => "Object of type _Missing is not JSON serializable"
  | integerTooLongToWrite => "Value error, " ++ Double.tooLong
  | notInteger => "Input should be a valid integer, unable to parse string as an integer"
  | integerTooLong => "Unable to parse input string as an integer, exceeded maximum size"
  | notPositive => "Input should be greater than or equal to 1"

/-- What is wrong, and where. -/
structure Complaint where
  /-- The steps from the outside in. -/
  location : List String
  /-- What is wrong. -/
  cause : Complaint.Cause
  deriving DecidableEq, Repr

namespace Complaint

/-- A complaint about the data itself. -/
def here (cause : Cause) : Complaint := ⟨[], cause⟩

/-- The same complaint, seen from one step further out. -/
def within (step : String) (c : Complaint) : Complaint := ⟨step :: c.location, c.cause⟩

/-- The location in one text. -/
def place (c : Complaint) : String := ".".intercalate c.location

/-- The text of a complaint: the location, then what is wrong. -/
def message (c : Complaint) : String := s!"{c.place}: {c.cause.message}"

end Complaint

end Conform
