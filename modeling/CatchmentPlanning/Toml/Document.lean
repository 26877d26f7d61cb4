import CatchmentPlanning.Toml.Lexical
import CatchmentPlanning.Toml.Moment

/-!
# TOML documents

A document is a sequence of lines: blank ones, key–value lines and headers. A
header opens a table, or the next element of an array of tables, and the
key–value lines that follow fill it; before the first header they fill the
document itself. The open table is put in its place when the next header comes
or the text ends.
-/

namespace CatchmentPlanning

namespace Toml

/-! ## Values -/

mutual

/-- Reads a value. `depth` arrays and inline tables may still be opened; `fuel`
is never short of the length of the text. -/
def value (fuel depth : Nat) (cs : List Char) : Except Fault (Value × List Char) :=
  match fuel with
  | 0 => .error .endOfText
  | fuel + 1 =>
    match cs with
    | [] => .error .endOfText
    | 't' :: 'r' :: 'u' :: 'e' :: rest => .ok (.boolean true, rest)
    | 'f' :: 'a' :: 'l' :: 's' :: 'e' :: rest => .ok (.boolean false, rest)
    | '[' :: rest =>
      match depth with
      | 0 => .error .tooDeep
      | depth + 1 => items fuel depth [] rest
    | '{' :: rest =>
      match depth with
      | 0 => .error .tooDeep
      | depth + 1 =>
        match skipGap rest with
        | '}' :: rest => .ok (.table .inline [], rest)
        | rest => pairs fuel depth ⟨.header, []⟩ rest
    | cs =>
      match string? cs with
      | some read => read.map fun (s, rest) => (.string s, rest)
      | none =>
        match moment? cs with
        | some rest => .ok (.moment, rest)
        | none => number cs

/-- Reads the items of an array up to its closing bracket. A comma may stand
behind the last one, and line ends and comments between any two tokens. -/
def items (fuel depth : Nat) (acc : List Value) (cs : List Char) :
    Except Fault (Value × List Char) :=
  match fuel with
  | 0 => .error .endOfText
  | fuel + 1 =>
    match skipFiller false cs with
    | .error e => .error e
    | .ok (']' :: rest) => .ok (.array acc.reverse, rest)
    | .ok cs =>
      match value fuel depth cs with
      | .error e => .error e
      | .ok (v, rest) =>
        match skipFiller false rest with
        | .error e => .error e
        | .ok (',' :: rest) => items fuel depth (v :: acc) rest
        | .ok (']' :: rest) => .ok (.array (v :: acc).reverse, rest)
        | .ok cs => misplaced cs

/-- Reads the entries of an inline table up to its closing brace. They stand on
one line, and no comma follows the last one. -/
def pairs (fuel depth : Nat) (t : Table) (cs : List Char) : Except Fault (Value × List Char) :=
  match fuel with
  | 0 => .error .endOfText
  | fuel + 1 =>
    match key fuel cs with
    | .error e => .error e
    | .ok ((parents, last), '=' :: rest) =>
      match value fuel depth (skipGap rest) with
      | .error e => .error e
      | .ok (v, rest) =>
        match t.addKeyed parents last v with
        | .error e => .error e
        | .ok t =>
          match skipGap rest with
          | ',' :: rest => pairs fuel depth t rest
          | '}' :: rest => .ok (.table .inline t.entries, rest)
          | cs => misplaced cs
    | .ok (_, rest) => misplaced rest

end

/-! ## Lines -/

/-- A document under construction: what has its place already, and the table
that is open. -/
structure Draft where
  /-- Everything but the open table. -/
  root : Table
  /-- Where the open table belongs; the document itself has no last key. -/
  place : Option (List String × String)
  /-- Whether the open table is an element of an array of tables. -/
  isElement : Bool
  /-- The open table. -/
  current : Table

namespace Draft

/-- The empty document, which is itself the open table. -/
def empty : Draft := ⟨⟨.header, []⟩, none, false, ⟨.header, []⟩⟩

/-- Puts the open table in its place. -/
def close (d : Draft) : Except Fault Table :=
  match d.place with
  | none => .ok d.current
  | some (parents, last) => do
    let (_, root) ← d.root.within false parents fun t =>
      if d.isElement then
        match t.value? last with
        | some (.tables elements) =>
          .ok ((), t.replace last (.tables (d.current.entries :: elements)))
        | none => .ok ((), t.add last (.tables [d.current.entries]))
        | some _ => .error (.duplicateKey last)
      else
        .ok ((), (t.erase last).add last (.table .header d.current.entries))
    return root

/-- Opens the table of a header. A table that exists already may be opened only
if nothing but the headers of its children has made it. -/
def openTable (d : Draft) (parents : List String) (last : String) : Except Fault Draft := do
  let root ← d.close
  let (entries, root) ← root.within false parents fun t =>
    match t.value? last with
    | none => .ok ([], t)
    | some (.table .implied entries) => .ok (entries, t.erase last)
    | some _ => .error (.duplicateKey last)
  return ⟨root, some (parents, last), false, ⟨.header, entries⟩⟩

/-- Opens the next element of an array of tables. -/
def openElement (d : Draft) (parents : List String) (last : String) : Except Fault Draft := do
  let root ← d.close
  let (_, root) ← root.within false parents fun t =>
    match t.value? last with
    | none => .ok ((), t.add last (.tables []))
    | some (.tables _) => .ok ((), t)
    | some _ => .error (.duplicateKey last)
  return ⟨root, some (parents, last), true, ⟨.header, []⟩⟩

end Draft

/-- Reads the lines of a document. `fuel` is never short of the length of the
text. -/
def lines (fuel : Nat) (d : Draft) (cs : List Char) : Except Fault Draft :=
  match fuel with
  | 0 => .error .endOfText
  | fuel + 1 =>
    let step : Except Fault (Draft × List Char) :=
      match skipGap cs with
      | '[' :: '[' :: rest => do
        let ((parents, last), rest) ← key fuel rest
        match rest with
        | ']' :: ']' :: rest =>
          let d ← d.openElement parents last
          return (d, ← lineRest rest)
        | rest => misplaced rest
      | '[' :: rest => do
        let ((parents, last), rest) ← key fuel rest
        match rest with
        | ']' :: rest =>
          let d ← d.openTable parents last
          return (d, ← lineRest rest)
        | rest => misplaced rest
      | '#' :: _ | '\n' :: _ | '\r' :: _ | [] => do
        return (d, ← lineRest cs)
      | cs => do
        let ((parents, last), rest) ← key fuel cs
        match rest with
        | '=' :: rest =>
          let (v, rest) ← value (2 * fuel + 2) nestingLimit (skipGap rest)
          let current ← d.current.addKeyed parents last v
          return ({ d with current }, ← lineRest rest)
        | rest => misplaced rest
    match step with
    | .error e => .error e
    | .ok (d, []) => .ok d
    | .ok (d, rest) => lines fuel d rest

/-- Reads a document. A byte order mark in front of it is skipped. -/
def read (text : String) : Except Fault Value := do
  let cs :=
    match text.toList with
    | '\ufeff' :: cs => cs
    | cs => cs
  let d ← lines (cs.length + 1) Draft.empty cs
  let root ← d.close
  return .table .header root.entries

end Toml

end CatchmentPlanning
