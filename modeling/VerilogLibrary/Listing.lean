import VerilogLibrary.Json.Printer
import VerilogLibrary.ModuleDecl.Json
import VerilogLibrary.Section

/-!
# Listings

A listing shows the plan of a library without writing the library. As text it
has one line for each module: the label of its section, filled up with blanks so
that the names form a column, and the name. As JSON it is an array of the
declarations, each with the label of its section in front.
-/

namespace VerilogLibrary

/-- The form of a listing. -/
inductive ListingFormat where
  | text
  | json
  deriving DecidableEq, Repr

/-- The word for a form. -/
def ListingFormat.label : ListingFormat → String
  | .text => "text"
  | .json => "json"

/-- The form that a word stands for. -/
def ListingFormat.ofLabel? (s : String) : Option ListingFormat :=
  [ListingFormat.text, .json].find? (·.label == s)

/-- The width of the column of labels. -/
def labelColumn : Nat := 13

/-- The label of a section, filled up to the width of the column. -/
def Section.paddedLabel (s : Section) : String :=
  s.label ++ String.ofList (List.replicate (labelColumn - s.label.length) ' ')

/-- The line of a module. -/
def listingLine (entry : Section × ModuleDecl) : String :=
  s!"{entry.1.paddedLabel} {entry.2.name}\n"

/-- The object of a module: its declaration with the label of its section in front. -/
def listingObject (entry : Section × ModuleDecl) : Json :=
  .record (("section", .text entry.1.label) :: entry.2.jsonMembers)

/-- The listing of a plan. -/
def listing (entries : List (Section × ModuleDecl)) : ListingFormat → String
  | .text => String.join (entries.map listingLine)
  | .json => (Json.array (entries.map listingObject)).pretty ++ "\n"

end VerilogLibrary
