import ClusterOperator.Text.Basic
import ClusterOperator.Validation.Violation

namespace ClusterOperator

def isLabelEnd (c : Char) : Bool :=
  c.isLower || c.isDigit

def isLabelChar (c : Char) : Bool :=
  isLabelEnd c || c = '-'

def isLabel (label : List Char) : Bool :=
  label.all isLabelChar && label.head?.any isLabelEnd && label.getLast?.any isLabelEnd

def isDnsName (text : String) : Bool :=
  (Text.cutAt (· = '.') text.toList).all isLabel

def isNameChar (c : Char) : Bool :=
  c.isAlphanum || c = '-'

def isLabelKeyChar (c : Char) : Bool :=
  isNameChar c || c = '_' || c = '.' || c = '/'

def isLabelValueChar (c : Char) : Bool :=
  isNameChar c || c = '_' || c = '.'

namespace Limit

def malformed (limit : Limit) (value : String) : Violation :=
  .malformed limit.field value

/-- A text may not have more bytes than the maximum. -/
def checkLength (limit : Limit) (value : String) : Verdict :=
  match limit.maximum with
  | some maximum =>
      if maximum < value.utf8ByteSize then .error (.tooLong limit.field maximum) else .ok ()
  | none => .ok ()

/-- An empty text, or a short one of letters, digits and hyphens. -/
def checkOptionalName (limit : Limit) (value : String) : Verdict :=
  if value = "" then .ok ()
  else do
    limit.checkLength value
    if value.toList.all isNameChar then .ok () else .error (limit.malformed value)

def checkDnsName (limit : Limit) (value : String) : Verdict := do
  limit.checkLength value
  if isDnsName value then .ok () else .error (limit.malformed value)

end Limit

/-- Checks one label: both lengths, then the characters of the key, then those of the value. -/
def checkLabel (keyLimit valueLimit : Limit) (label : String × String) : Verdict := do
  keyLimit.checkLength label.1
  valueLimit.checkLength label.2
  if label.1 ≠ "" ∧ label.1.toList.all isLabelKeyChar then .ok ()
  else .error (keyLimit.malformed label.1)
  if label.2.toList.all isLabelValueChar then .ok () else .error (valueLimit.malformed label.2)

/-- Checks labels in the given order. Fewer labels than were declared means that keys were
repeated. -/
def checkLabels (declared : Nat) (labels : List (String × String)) (keyLimit valueLimit : Limit) :
    Verdict :=
  if labels.length < declared then .error (.repeatedKeys keyLimit.field)
  else labels.forM (checkLabel keyLimit valueLimit)

end ClusterOperator
