/-!
# Printed records

A record is printed as its name followed by its fields in braces, in the order
in which they are declared.
-/

namespace RespClient.Text

structure Field where
  label : String
  shown : String

def Field.print (field : Field) : String :=
  field.label ++ ": " ++ field.shown

def showFlag : Bool → String
  | true => "true"
  | false => "false"

def printRecord (name : String) (fields : List Field) : String :=
  name ++ " \x7b " ++ String.intercalate ", " (fields.map Field.print) ++ " \x7d"

end RespClient.Text
