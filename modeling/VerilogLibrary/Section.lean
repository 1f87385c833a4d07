import VerilogLibrary.Catalog
import VerilogLibrary.Register

/-!
# Sections and the plan of a library

A library has six sections: the operations of each category, the multiplexer,
and the registers. A comment line opens each of them. The plan lists the modules
of a library with their sections, in the order in which they are written.
-/

namespace VerilogLibrary

/-- A section of a library. -/
inductive Section where
  | operations (category : Category)
  | multiplexer
  | registers
  deriving DecidableEq, Repr

namespace Section

/-- All sections in the order of the library. -/
def all : List Section :=
  Category.all.map .operations ++ [.multiplexer, .registers]

/-- The short name of a section. -/
def label : Section → String
  | .operations category => category.label
  | .multiplexer => "ternary"
  | .registers => "register"

/-- The comment that opens a section. -/
def header : Section → String
  | .operations category => s!"//{category.label} ops"
  | .multiplexer => "//ternary op"
  | .registers => "//Now all the register permutations"

/-- The modules of a section, in order. -/
def decls (catalog : Catalog) (o : Options) : Section → List ModuleDecl
  | .operations category => (catalog.entries category).map (·.decl o)
  | .multiplexer => [VerilogLibrary.multiplexer o]
  | .registers => Register.variants.map (·.decl o)

end Section

/-- The modules of a library with their sections, in order. -/
def plan (catalog : Catalog) (o : Options) : List (Section × ModuleDecl) :=
  Section.all.flatMap fun s => (s.decls catalog o).map fun m => (s, m)

end VerilogLibrary
