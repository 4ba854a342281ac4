import ResourceEditor.Json.Writer
import ResourceEditor.Layout.Rows
import ResourceEditor.Schema.Json
import ResourceEditor.Schema.Outline
import ResourceEditor.Text.Blank
import ResourceEditor.Text.Width
import ResourceEditor.Validation.Violation
import ResourceEditor.Value.Json
import ResourceEditor.Yaml.Writer
/-
This file holds what commands show, in every format that users can choose. Of the columns of a table
each is as wide as its widest line, and a cell can have many lines.
-/

namespace ResourceEditor

structure Table where
  header : List String
  rows : List (List String)

namespace Table

/-- The signs of a rule across a table: where it starts, between columns, and where it ends. -/
structure Rule where
  start : String
  crossing : String
  stop : String

def topRule : Rule := ⟨"╭", "┬", "╮"⟩

def innerRule : Rule := ⟨"├", "┼", "┤"⟩

def bottomRule : Rule := ⟨"╰", "┴", "╯"⟩

def cellLines (cell : String) : List (List Char) := Text.splitAll '\n' cell.toList

def cellWidth (cell : String) : Nat := ((cellLines cell).map Text.width).foldl max 0

/-- The widths of columns that all rows given fit in. -/
def columnWidths (rows : List (List String)) : List Nat :=
  rows.foldl (fun widths row =>
    (widths.zip (row.map cellWidth)).map fun (width, other) => max width other)
    ((rows.headD []).map fun _ => 0)

/-- A rule over columns, each with a blank at both sides. -/
def Rule.render (rule : Rule) (widths : List Nat) : String :=
  let parts := widths.map fun width => String.ofList (List.replicate (width + 2) '─')
  rule.start ++ String.intercalate rule.crossing parts ++ rule.stop

/-- One line of a cell, filled up to the width of its column. -/
def fill (width : Nat) (line : List Char) : String :=
  " " ++ String.ofList (line ++ List.replicate (width - Text.width line) ' ') ++ " "

/-- The lines of a row, as many as its tallest cell has. -/
def rowLines (widths : List Nat) (row : List String) : List String :=
  let cells := row.map cellLines
  let height := (cells.map List.length).foldl max 0
  (List.range height).map fun position =>
    let parts := (widths.zip cells).map fun (width, lines) => fill width (lines.getD position [])
    "│" ++ String.intercalate "│" parts ++ "│"

/-- The table with rules around it and below its header. Without rows, the rule below the header is
the last line. -/
def render (table : Table) : String :=
  let widths := columnWidths (table.header :: table.rows)
  let body :=
    if table.rows.isEmpty then []
    else table.rows.flatMap (rowLines widths) ++ [bottomRule.render widths]
  String.intercalate "\n"
    ([topRule.render widths] ++ rowLines widths table.header ++ [innerRule.render widths] ++ body)

end Table

inductive OutputFormat where
  | table
  | json
  | jsonCompact
  | yaml
  | plain
deriving Repr, DecidableEq

namespace OutputFormat

def all : List OutputFormat := [.table, .json, .jsonCompact, .yaml, .plain]

def name : OutputFormat → String
  | .table => "table"
  | .json => "json"
  | .jsonCompact => "json-compact"
  | .yaml => "yaml"
  | .plain => "plain"

def ofName? (text : String) : Option OutputFormat := all.find? fun format => format.name == text

end OutputFormat

/-- One thing to show: drawn for people, as a document, and as plain lines for scripts. -/
structure View where
  drawn : String
  document : Json
  plain : String

namespace View

def render (view : View) : OutputFormat → String
  | .table => view.drawn
  | .json => view.document.pretty
  | .jsonCompact => view.document.compact
  | .yaml => Yaml.write view.document
  | .plain => view.plain

/-- A list with a row, a document and a plain line for each element. -/
def ofList {α : Type} (header : List String) (row : α → List String) (document : α → Json)
    (plain : α → String) (elements : List α) : View where
  drawn := Table.render ⟨header, elements.map row⟩
  document := .array (elements.map document)
  plain := String.intercalate "\n" (elements.map plain)

end View

/-- A form, with a row for each scalar; scripts see the identifier. -/
def Record.view (model : Record) : View where
  drawn := Table.render ⟨["Field", "Value"], model.rows.map fun (path, text) => [path, text]⟩
  document := model.toJson
  plain := ((Members.get? model "id").bind Value.text?).getD ""

def Violation.toJson (violation : Violation) : Json :=
  .object
    [("path", .string violation.path.render), ("kind", .string violation.cause.kindName),
      ("message", .string violation.cause.message)]

def Violation.view (violations : List Violation) : View :=
  View.ofList ["Field", "Problem"]
    (fun violation => [violation.path.render, violation.cause.message]) toJson render violations

def FieldOutline.row (line : FieldOutline) : List String :=
  [line.path, line.title, line.kind, if line.required then "yes" else "",
    String.intercalate "; " line.constraints]

def Schema.view (schema : Schema) : View where
  drawn :=
    schema.title ++ "\n" ++
      Table.render
        ⟨["Field", "Title", "Kind", "Req", "Constraints"], schema.outline.map FieldOutline.row⟩
  document := schema.toJson
  plain := String.intercalate "\n" (Members.names schema.fields)

namespace Resource

def summaryRow (resource : Resource) : List String :=
  let schema := resource.schema
  [resource.name, schema.title, toString schema.fields.length,
    String.intercalate ", " schema.required, resource.collectionPath?.getD "per node interface"]

def summaryJson (resource : Resource) : Json :=
  let schema := resource.schema
  .object
    [("resource", .string resource.name), ("title", .string schema.title),
      ("fields", .int schema.fields.length), ("required", .array (schema.required.map .string)),
      ("endpoint", resource.collectionPath?.elim .null .string)]

/-- All resources with a line for each. -/
def overview : View :=
  View.ofList ["Type", "Title", "Fields", "Required", "Endpoint"] summaryRow summaryJson name all

end Resource

end ResourceEditor
