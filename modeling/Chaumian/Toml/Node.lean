import Chaumian.Datum

/-!
What a TOML text builds up: tables of keys with what stands under them.

A table may be opened once by a heading of its own. Before that, headings of tables below it may
have implied it; keys with points make tables too, which can only be continued by such keys.
-/

namespace Chaumian.Toml

/-- How a table came about. -/
inductive Origin where
  /-- By a heading of its own. -/
  | heading
  /-- By the heading of a table below it. -/
  | implied
  /-- By a key with points. -/
  | dotted
  deriving DecidableEq, Repr

/-- What stands under a key. -/
inductive Node where
  | datum (d : Datum)
  | array (items : List Node)
  /-- A table written as a value, which nothing can be added to. -/
  | inline (entries : List (String × Node))
  | table (origin : Origin) (entries : List (String × Node))
  /-- Tables of one heading, the last of which can be added to. -/
  | tables (earlier : List (List (String × Node))) (last : List (String × Node))

/-- The keys of a table, in the order they came up, with what stands under them. -/
abbrev Entries := List (String × Node)

/-- A table with what stands under a key changed or put in. -/
def alter (key : String) (f : Option Node → Option Node) : Entries → Option Entries
  | [] => do return [(key, ← f none)]
  | (k, node) :: rest =>
    if k = key then do return (k, ← f (some node)) :: rest
    else do return (k, node) :: (← alter key f rest)

/-- A table with a change made where a path leads. Tables missing on the way are made, with the
given origin. With points a path does not lead through tables that have a heading of their own,
but for the last one of tables of one heading. -/
def alterAt (made : Origin) (f : Origin → Entries → Option Entries) :
    (path : List String) → Origin → Entries → Option Entries
  | [], origin, entries => f origin entries
  | key :: path, _, entries =>
    entries |> alter key fun
      | none => do return .table made (← alterAt made f path made [])
      | some (.table origin below) =>
        if made = .dotted ∧ origin = .heading then none
        else do return .table origin (← alterAt made f path origin below)
      | some (.tables earlier last) => do
        return .tables earlier (← alterAt made f path .heading last)
      | some _ => none

/-- A table with a node put under a path of keys with points, which has to be new. A table below
is continued only if such a path made it. -/
def insert (path : List String) (key : String) (node : Node) : Entries → Option Entries :=
  alterAt .dotted
    (fun origin entries =>
      if path ≠ [] ∧ origin ≠ .dotted then none
      else entries |> alter key fun
        | none => some node
        | some _ => none)
    path .heading

/-- A table with a change made under a heading. -/
def under (heading : List String) (f : Entries → Option Entries) : Entries → Option Entries :=
  alterAt .implied (fun _ => f) heading .heading

/-- A table with one opened below it by a heading. -/
def openTable (path : List String) (key : String) : Entries → Option Entries :=
  under path (alter key fun
    | none => some (.table .heading [])
    | some (.table .implied entries) => some (.table .heading entries)
    | some _ => none)

/-- A table with one more opened below it of those of one heading. -/
def openElement (path : List String) (key : String) : Entries → Option Entries :=
  under path (alter key fun
    | none => some (.tables [] [])
    | some (.tables earlier last) => some (.tables (earlier ++ [last]) [])
    | some _ => none)

end Chaumian.Toml
