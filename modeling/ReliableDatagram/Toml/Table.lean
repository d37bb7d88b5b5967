import ReliableDatagram.Toml.Value

/-!
# Building tables

A document says the same table in several places: under its header, in dotted
keys, and in the headers of its subtables.  The rules below decide which of these
may be combined.

* A key is given a value once.
* A table gets its header once, though headers of its subtables may come first.
* Dotted keys extend only tables that dotted keys have made.
* A table in braces is complete.
* A path through an array of tables goes through its last item.
-/

namespace ReliableDatagram.Toml

namespace Origin

/-- Whether a path may lead into a table of this origin.  Paths of dotted keys
are held to tables without a header. -/
def mayEnter (viaDots : Bool) : Origin → Bool
  | header => !viaDots
  | implied => true
  | dotted => true
  | braces => false

/-- The origin of a table that a path mentions for the first time. -/
def mentioned (viaDots : Bool) : Origin := if viaDots then dotted else implied

end Origin

namespace Entries

/-- Change the table at the end of a path.  Tables on the path that do not exist
yet come into being. -/
def descend (viaDots : Bool) (change : Origin → Entries → Option Entries) :
    (path : List String) → Origin → Entries → Option Entries
  | [], origin, entries => change origin entries
  | key :: path, _, entries =>
      entries.alter key fun
        | none =>
            let origin := Origin.mentioned viaDots
            (descend viaDots change path origin []).map (.table origin)
        | some (.table origin inner) =>
            if origin.mayEnter viaDots then
              (descend viaDots change path origin inner).map (.table origin)
            else none
        | some (.tables items) =>
            match items.getLast? with
            | some (.table origin inner) =>
                (descend viaDots change path origin inner).map fun inner =>
                  .tables (items.dropLast ++ [.table origin inner])
            | _ => none
        | some _ => none

/-- Give a new key its value. -/
def add (entries : Entries) (key : String) (value : Value) : Option Entries :=
  entries.alter key fun
    | none => some value
    | some _ => none

/-- Give a dotted key its value.  The table that holds it has to be one that
dotted keys have made, unless the key has no dots. -/
def assign (key : List String) (value : Value) (origin : Origin) (entries : Entries) :
    Option Entries :=
  match key.getLast? with
  | none => none
  | some last =>
      let path := key.dropLast
      let store (origin : Origin) (inner : Entries) : Option Entries :=
        if origin = .dotted ↔ path ≠ [] then inner.add last value else none
      descend true store path origin entries

/-- Give a table its header. -/
def openTable (entries : Entries) (key : String) : Option Entries :=
  entries.alter key fun
    | none => some (.table .header [])
    | some (.table .implied inner) => some (.table .header inner)
    | some _ => none

/-- Add an item to an array of tables. -/
def openItem (entries : Entries) (key : String) : Option Entries :=
  entries.alter key fun
    | none => some (.tables [.table .header []])
    | some (.tables items) => some (.tables (items ++ [.table .header []]))
    | some _ => none

end Entries

/-- An expression of a document. -/
inductive Statement where
  /-- A dotted key and its value. -/
  | assign (key : List String) (value : Value)
  /-- The header of a table. -/
  | table (path : List String)
  /-- The header of an item of an array of tables. -/
  | item (path : List String)

/-- A document so far: what it holds, and the table that keys belong to. -/
structure Document where
  /-- What was read. -/
  entries : Entries := []
  /-- The path of the latest header. -/
  current : List String := []

namespace Document

/-- Make a table or an item at the end of a path the current one. -/
def enter (document : Document) (path : List String)
    (make : Entries → String → Option Entries) : Option Document :=
  match path.getLast? with
  | none => none
  | some last =>
      (document.entries.descend false (fun _ inner => make inner last) path.dropLast .header).map
        fun entries => ⟨entries, path⟩

/-- The document after one more expression. -/
def apply (document : Document) : Statement → Option Document
  | .assign key value =>
      (document.entries.descend false (Entries.assign key value) document.current .header).map
        fun entries => { document with entries }
  | .table path => document.enter path Entries.openTable
  | .item path => document.enter path Entries.openItem

/-- What a list of expressions says. -/
def ofStatements (statements : List Statement) : Option Entries :=
  (statements.foldlM apply {}).map (·.entries)

end Document

end ReliableDatagram.Toml
