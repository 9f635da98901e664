import Tilde.Log
import Tilde.Program
import Tilde.Shell.Quote

/-!
# Expanding shell literals

A shell literal is a tilde in front of a string literal. It runs as a command where its place is one
that delivers output: a whole statement, the value of an assignment, an argument of a call, or the
base of an attribute. There it becomes a call of a helper, and each field of an interpolated command
becomes a call that quotes the field's formatted value, unless its format spec is `raw`. Anywhere
else the tilde keeps its meaning as an operator.

Whether a tilde is expanded depends on its parent alone, so the expansion is one recursion that
carries the delivery of the place (`site`), which is absent where a literal is left alone. What the
log says about it is a second reading of the same tree (`notes`): the literals directly below a call
come before anything inside its parts.
-/

namespace Tilde

open Shell (Delivery)

/-- The format spec that splices a field into a command as it is. -/
def rawSpec : String := "raw"

mutual

/-- Expands the shell literals of an expression whose place delivers output as `site` says. -/
def Expr.expand (site : Option Delivery) : Expr → Expr
  | .unary .invert (.str text) =>
    match site with
    | some d => .callOf d.runner [.str text]
    | none => .unary .invert (.str text)
  | .unary .invert (.template parts) =>
    match site with
    | some d => .callOf d.runner [.template (commandParts parts)]
    | none => .unary .invert (.template (expandParts parts))
  | .unary op e => .unary op (e.expand none)
  | .name n => .name n
  | .int v => .int v
  | .bool b => .bool b
  | .none => .none
  | .str s => .str s
  | .template parts => .template (expandParts parts)
  | .tuple items => .tuple (expandAll none items)
  | .list items => .list (expandAll none items)
  | .star e => .star (e.expand none)
  | .binary op l r => .binary op (l.expand none) (r.expand none)
  | .compare op l r => .compare op (l.expand none) (r.expand none)
  | .logical op l r => .logical op (l.expand none) (r.expand none)
  | .call f args keywords =>
    .call (f.expand none) (expandAll (some .single) args) (expandKeywords keywords)
  | .attribute e n => .attribute (e.expand (some .single)) n
  | .subscript e i => .subscript (e.expand none) (i.expand none)

/-- Expands each expression of a list. -/
def expandAll (site : Option Delivery) : List Expr → List Expr
  | [] => []
  | e :: es => e.expand site :: expandAll site es

/-- Expands the values of arguments given by name. -/
def expandKeywords : List Keyword → List Keyword
  | [] => []
  | .mk n e :: ks => .mk n (e.expand (some .single)) :: expandKeywords ks

/-- Expands inside the fields of an interpolated string. -/
def expandParts : List Part → List Part
  | [] => []
  | .literal s :: ps => .literal s :: expandParts ps
  | .field e spec :: ps => .field (e.expand none) spec :: expandParts ps

/-- Expands inside the fields of an interpolated command, and has their values quoted. -/
def commandParts : List Part → List Part
  | [] => []
  | .literal s :: ps => .literal s :: commandParts ps
  | .field e spec :: ps =>
    let value := e.expand none
    let part :=
      if spec = some rawSpec then Part.field value none
      else .field (.callOf Shell.quoter [.template [.field value spec]]) none
    part :: commandParts ps

end

mutual

/-- Expands the shell literals of a statement. -/
def Stmt.expand : Stmt → Stmt
  | .evaluate line e => .evaluate line (e.expand (some .stream))
  | .assign line target e =>
    .assign line target (e.expand (some (if target.isSequence then .triple else .single)))
  | .assert line test message =>
    .assert line (test.expand none) (message.map fun e => e.expand none)
  | .pass line => .pass line
  | .breakLoop line => .breakLoop line
  | .continueLoop line => .continueLoop line
  | .branch line test body orelse =>
    .branch line (test.expand none) (expandBody body) (expandBody orelse)
  | .whileLoop line test body => .whileLoop line (test.expand none) (expandBody body)
  | .forEach line target items body =>
    .forEach line target (items.expand none) (expandBody body)
  | .attempt line body handlers => .attempt line (expandBody body) (expandHandlers handlers)

/-- Expands the statements of a block. -/
def expandBody : List Stmt → List Stmt
  | [] => []
  | s :: ss => s.expand :: expandBody ss

/-- Expands the blocks of handlers. -/
def expandHandlers : List Handler → List Handler
  | [] => []
  | .mk kind name body :: hs => .mk kind name (expandBody body) :: expandHandlers hs

end

/-! ### What the log says -/

/-- A record for each field of a command that stands in single quotes. A field stands in the text as
one letter, and `seen` is the text up to here, as far as its quotes go. -/
def fieldNotes (line : Nat) (seen : Shell.Span) : List Part → List LogRecord
  | [] => []
  | .literal s :: ps => fieldNotes line (seen.run s.toList) ps
  | .field _ spec :: ps =>
    let rest := fieldNotes line (seen.next 'x') ps
    if spec ≠ some rawSpec && seen == .single then .quotedTwice line :: rest else rest

/-- The records of an expression that is itself a shell literal to be expanded. -/
def Expr.siteNotes (line : Nat) (d : Delivery) : Expr → List LogRecord
  | .unary .invert (.str _) => [.runsAs line d]
  | .unary .invert (.template parts) => fieldNotes line .plain parts ++ [.runsAs line d]
  | _ => []

/-- The expression that an argument gives. -/
def Keyword.value : Keyword → Expr
  | .mk _ e => e

mutual

/-- The records of what is expanded below an expression. -/
def Expr.notes (line : Nat) : Expr → List LogRecord
  | .name _ | .int _ | .bool _ | .none | .str _ => []
  | .unary _ e | .star e => e.notes line
  | .template parts => partNotes line parts
  | .tuple items | .list items => allNotes line items
  | .binary _ l r | .compare _ l r | .logical _ l r => l.notes line ++ r.notes line
  | .call f args keywords =>
    args.flatMap (Expr.siteNotes line .single) ++
      keywords.flatMap (fun k => k.value.siteNotes line .single) ++
      f.notes line ++ allNotes line args ++ keywordNotes line keywords
  | .attribute e _ => e.siteNotes line .single ++ e.notes line
  | .subscript e i => e.notes line ++ i.notes line

/-- The records of what is expanded below the expressions of a list. -/
def allNotes (line : Nat) : List Expr → List LogRecord
  | [] => []
  | e :: es => e.notes line ++ allNotes line es

/-- The records of what is expanded below arguments given by name. -/
def keywordNotes (line : Nat) : List Keyword → List LogRecord
  | [] => []
  | .mk _ e :: ks => e.notes line ++ keywordNotes line ks

/-- The records of what is expanded inside the fields of an interpolated string. -/
def partNotes (line : Nat) : List Part → List LogRecord
  | [] => []
  | .literal _ :: ps => partNotes line ps
  | .field e _ :: ps => e.notes line ++ partNotes line ps

end

mutual

/-- The records of what is expanded in a statement. -/
def Stmt.notes : Stmt → List LogRecord
  | .evaluate line e => e.siteNotes line .stream ++ e.notes line
  | .assign line target e =>
    e.siteNotes line (if target.isSequence then .triple else .single) ++ e.notes line
  | .assert line test none => test.notes line
  | .assert line test (some message) => test.notes line ++ message.notes line
  | .pass _ | .breakLoop _ | .continueLoop _ => []
  | .branch line test body orelse => test.notes line ++ bodyNotes body ++ bodyNotes orelse
  | .whileLoop line test body => test.notes line ++ bodyNotes body
  | .forEach line _ items body => items.notes line ++ bodyNotes body
  | .attempt _ body handlers => bodyNotes body ++ handlerNotes handlers

/-- The records of what is expanded in a block. -/
def bodyNotes : List Stmt → List LogRecord
  | [] => []
  | s :: ss => s.notes ++ bodyNotes ss

/-- The records of what is expanded in the blocks of handlers. -/
def handlerNotes : List Handler → List LogRecord
  | [] => []
  | .mk _ _ body :: hs => bodyNotes body ++ handlerNotes hs

end

namespace Program

/-- Expands the shell literals of a program. -/
def expand (p : Program) : Program := { p with body := expandBody p.body }

/-- The records of an expansion. -/
def notes (p : Program) : List LogRecord := bodyNotes p.body

/-- The number of shell literals that an expansion replaces. -/
def literalCount (p : Program) : Nat := p.notes.countP LogRecord.isRunsAs

end Program

end Tilde
