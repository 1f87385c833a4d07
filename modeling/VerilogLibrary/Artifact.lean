import VerilogLibrary.ContentHash
import VerilogLibrary.ModuleDecl.Render
import VerilogLibrary.Section
import VerilogLibrary.Sink

/-!
# The text of a library

A library is written piece by piece: for each section its header and a line
break, then its modules. A module that has a fault ends the text; what stands
before it is the text as far as it goes.

There are two ways to obtain the text. `renderLibrary` gives it as a whole and
fails if a module is faulty. `writeLibrary` sends it to a sink one piece at a
time, keeps count of the bytes and of their hash, and reports what it has written.
When a module is faulty, or the sink gives up, the sink keeps what it has received.
-/

namespace VerilogLibrary

/-- Why a library could not be made. -/
inductive LibraryError where
  /-- A module has a fault. -/
  | faulty (decl : String) (fault : ModuleDecl.Fault)
  /-- An operation was refused by the catalog. -/
  | collision (cause : Collision)
  /-- The text could not be written. -/
  | write (failure : WriteFailure)
  deriving DecidableEq, Repr

/-- The message for a library that could not be made. -/
def LibraryError.message : LibraryError → String
  | .faulty decl fault => s!"failed to generate module '{decl}': {fault.message}"
  | .collision cause => cause.message
  | .write failure => s!"failed to write library: {failure.message}"

/-- What is written at a time: a text, or the text of a module. -/
inductive Piece where
  | text (s : String)
  | decl (m : ModuleDecl)
  deriving DecidableEq, Repr

/-- The pieces of a section. -/
def Section.pieces (catalog : Catalog) (o : Options) (s : Section) : List Piece :=
  .text s.header :: .text "\n" :: (s.decls catalog o).map .decl

/-- The pieces of a library, in order. -/
def pieces (catalog : Catalog) (o : Options) : List Piece :=
  Section.all.flatMap (·.pieces catalog o)

/-- The text of a piece. -/
def Piece.render : Piece → Except LibraryError String
  | .text s => .ok s
  | .decl m =>
    match m.render with
    | .ok s => .ok s
    | .error fault => .error (.faulty m.name fault)

/-- The text of pieces up to the first that has none, and why it has none. -/
def renderPieces : List Piece → String × Option LibraryError
  | [] => ("", none)
  | piece :: rest =>
    match piece.render with
    | .error e => ("", some e)
    | .ok s =>
      let (text, e?) := renderPieces rest
      (s ++ text, e?)

/-- The text of a library. -/
def renderLibrary (catalog : Catalog) (o : Options) : Except LibraryError String :=
  match renderPieces (pieces catalog o) with
  | (text, none) => .ok text
  | (_, some e) => .error e

/-- A report on a library that was written. -/
structure Summary where
  /-- The names of the modules in order. -/
  modules : List String
  /-- The length of the text in bytes. -/
  bytes : Nat
  /-- The hash of the text. -/
  hash : ContentHash
  deriving DecidableEq, Repr

/-- What has been written so far. -/
structure Progress where
  hasher : ContentHasher
  bytes : Nat
  /-- The names of the modules, the latest first. -/
  modules : List String

namespace Progress

/-- Before anything is written. -/
def start : Progress :=
  ⟨.empty, 0, []⟩

/-- After a piece is written as the given bytes. -/
def add (p : Progress) (piece : Piece) (bytes : List UInt8) : Progress where
  hasher := p.hasher.update bytes
  bytes := p.bytes + bytes.length
  modules :=
    match piece with
    | .text _ => p.modules
    | .decl m => m.name :: p.modules

/-- The report at the end. -/
def summary (p : Progress) : Summary :=
  ⟨p.modules.reverse, p.bytes, p.hasher.finish⟩

end Progress

/-- Writes the pieces one after the other. -/
def writePieces : List Piece → Sink → Progress → Sink × Except LibraryError Progress
  | [], sink, progress => (sink, .ok progress)
  | piece :: rest, sink, progress =>
    match piece.render with
    | .error e => (sink, .error e)
    | .ok s =>
      let bytes := Text.utf8 s
      match sink.writeAll bytes with
      | (sink, some failure) => (sink, .error (.write failure))
      | (sink, none) => writePieces rest sink (progress.add piece bytes)

/-- Writes a library to a sink, and flushes it. -/
def writeLibrary (catalog : Catalog) (o : Options) (sink : Sink) :
    Sink × Except LibraryError Summary :=
  match writePieces (pieces catalog o) sink .start with
  | (sink, .error e) => (sink, .error e)
  | (sink, .ok progress) =>
    match sink.flushFailure? with
    | some failure => (sink, .error (.write failure))
    | none => (sink, .ok progress.summary)

end VerilogLibrary
