import HostCall.Toml.Lexeme
import HostCall.Text.Utf8

/-!
# Reading documents

A document is a sequence of lines: headers of tables, headers of arrays of tables, and pairs of a
key and a value.  `Draft` is what has been read so far, with the keys that may not be opened again.
-/

namespace HostCall.Toml

/-- A value that is neither inline array nor table. -/
def readSimple (t : Text) : Reading Item :=
  if Text.startsWith "\"\"\"" t then
    (readQuotedLines (t.drop 3)).map fun (v, rest) => (.leaf (.text v), rest)
  else if Text.startsWith "\"" t then
    (readQuoted false false (t.drop 1)).map fun (v, rest) => (.leaf (.text v), rest)
  else if Text.startsWith "'''" t then
    (readLiteralLines (t.drop 3)).map fun (v, rest) => (.leaf (.text v), rest)
  else if Text.startsWith "'" t then
    (readLiteral (t.drop 1)).map fun (v, rest) => (.leaf (.text v), rest)
  else if Text.startsWith "true" t then .ok (.leaf (.boolean true), t.drop 4)
  else if Text.startsWith "false" t then .ok (.leaf (.boolean false), t.drop 5)
  else readScalar t

/-- Whether a key is one of the sealed ones or lies beneath one. -/
def isSealed (sealedKeys : List Key) (k : Key) : Bool := sealedKeys.any (·.isPrefixOf k)

/-- Splits a key before its last part. -/
def splitKey (k : Key) : Key × Text := (k.dropLast, k.getLastD [])

def expectMark (mark : CodePoint) (t : Text) : Except DocumentFault Text :=
  match readMark? (· = mark) t with
  | some rest => .ok rest
  | none => .error .malformed

def orMalformed {α : Type} : Option α → Except DocumentFault α
  | some a => .ok a
  | none => .error .malformed

mutual

/-- A value; `fuel` bounds its depth and the number of its items. -/
def readItem : Nat → Text → Except DocumentFault (Item × Text)
  | 0, _ => .error .malformed
  | fuel + 1, t =>
    match t with
    | [] => .error .malformed
    | c :: rest =>
      if c = '[' then do
        let (items, rest) ← readItems fuel rest
        return (.array items, rest)
      else if c = '\x7b' then
        match skipSpace rest with
        | [] => .error .malformed
        | d :: rest' =>
          if d = '\x7d' then .ok (.table [], rest')
          else do
            let (entries, rest) ← readPairs fuel [] [] (d :: rest')
            return (.table entries, rest)
      else readSimple t

/-- The items of an array up to its bracket; a comma may stand behind the last one. -/
def readItems : Nat → Text → Except DocumentFault (List Item × Text)
  | 0, _ => .error .malformed
  | fuel + 1, t => do
    match ← orMalformed (skipTrivia false t) with
    | [] => .error .malformed
    | c :: rest =>
      if c = ']' then return ([], rest)
      else
        let (i, t) ← readItem fuel (c :: rest)
        match ← orMalformed (skipTrivia false t) with
        | [] => .error .malformed
        | c :: rest =>
          if c = ']' then return ([i], rest)
          else if c = ',' then
            let (is, t) ← readItems fuel rest
            return (i :: is, t)
          else .error .malformed

/-- The pairs of an inline table up to its brace.  Tables and arrays among them are sealed. -/
def readPairs : Nat → Table → List Key → Text → Except DocumentFault (Table × Text)
  | 0, _, _, _ => .error .malformed
  | fuel + 1, table, sealedKeys, t => do
    let (key, t) ← readKey t
    let (i, t) ← readItem fuel (skipSpace (← expectMark '=' t))
    if isSealed sealedKeys key then .error .malformed
    else
      let (parent, stem) := splitKey key
      let table ← orMalformed (Table.updateAt false (Table.addNew stem i) parent table)
      match skipSpace t with
      | [] => .error .malformed
      | c :: rest =>
        if c = '\x7d' then return (table, rest)
        else if c = ',' then
          readPairs fuel table (if i.isContainer then key :: sealedKeys else sealedKeys)
            (skipSpace rest)
        else .error .malformed

end

/-- What has been read of a document. -/
structure Draft where
  root : Table := []
  /-- The table that pairs go into. -/
  header : Key := []
  /-- Inline arrays and tables, which stay as they are. -/
  sealedKeys : List Key := []
  /-- Tables that no header may open again. -/
  closed : List Key := []
  /-- Tables that are closed by the next header. -/
  closing : List Key := []

namespace Draft

/-- The header of a table, behind its bracket. -/
def openTable (d : Draft) (t : Text) : Except DocumentFault (Draft × Text) := do
  let (key, t) ← readKey (skipSpace t)
  if d.closed.contains key || isSealed d.sealedKeys key then .error .malformed
  else
    let root ← orMalformed (Table.updateAt true some key d.root)
    return ({ d with root, header := key, closed := key :: d.closed }, ← expectMark ']' t)

/-- The header of one more table of an array, behind its brackets. -/
def openArray (d : Draft) (t : Text) : Except DocumentFault (Draft × Text) := do
  let (key, t) ← readKey (skipSpace t)
  if isSealed d.sealedKeys key then .error .malformed
  else
    let outside (k : Key) : Bool := !key.isPrefixOf k
    let (parent, stem) := splitKey key
    let root ← orMalformed (Table.updateAt true (Table.addTable stem) parent d.root)
    return ({ d with
        root, header := key, sealedKeys := d.sealedKeys.filter outside
        closed := key :: d.closed.filter outside },
      ← expectMark ']' (← expectMark ']' t))

/-- The keys of the tables between the header and a pair. -/
def keysBetween (header key : Key) : List Key :=
  (List.range (key.length - 1)).map fun i => header ++ key.take (i + 1)

/-- A pair of a key and a value. -/
def addPair (d : Draft) (t : Text) : Except DocumentFault (Draft × Text) := do
  let (key, t) ← readKey t
  let t := skipSpace (← expectMark '=' t)
  let (i, t) ← readItem (2 * t.length + 2) t
  let (parent, stem) := splitKey key
  let between := keysBetween d.header key
  if between.any d.closed.contains || isSealed d.sealedKeys (d.header ++ parent) then
    .error .malformed
  else
    let root ← orMalformed (Table.updateAt true (Table.addNew stem i) (d.header ++ parent) d.root)
    return ({ d with
        root, closing := between ++ d.closing
        sealedKeys := if i.isContainer then (d.header ++ key) :: d.sealedKeys else d.sealedKeys },
      t)

/-- Closes the tables that pairs have opened. -/
def closeTables (d : Draft) : Draft := { d with closed := d.closing ++ d.closed, closing := [] }

/-- One statement, which does not start with a newline. -/
def addStatement (d : Draft) (c : CodePoint) (rest : Text) :
    Except DocumentFault (Draft × Text) :=
  if c = '[' then
    match rest with
    | b :: rest' => if b = '[' then d.closeTables.openArray rest' else d.closeTables.openTable rest
    | [] => .error .malformed
  else if c = '#' then .ok (d, c :: rest)
  else d.addPair (c :: rest)

/-- The end of a line behind a statement: a comment may stand there. -/
def endLine (t : Text) : Except DocumentFault Text :=
  match skipSpace t with
  | [] => .ok []
  | c :: rest =>
    if c = '\n' then .ok rest
    else if c = '#' then
      let comment := rest.takeWhile fun c : CodePoint => c ≠ '\n'
      if comment.any isControl then .error .malformed
      else .ok (rest.drop (comment.length + 1))
    else .error .malformed

/-- Reads statements to the end of the text; `fuel` bounds their number. -/
def readAll : Nat → Draft → Text → Except DocumentFault Draft
  | 0, _, _ => .error .malformed
  | fuel + 1, d, t =>
    match skipSpace t with
    | [] => .ok d
    | c :: rest =>
      if c = '\n' then readAll fuel d rest
      else do
        let (d, t) ← d.addStatement c rest
        readAll fuel d (← endLine t)

end Draft

/-- A newline may be written with a carriage return before it. -/
def joinReturns : Text → Text
  | [] => []
  | c :: rest =>
    if c = '\r' ∧ rest.head? = some '\n' then joinReturns rest else c :: joinReturns rest

/-- The table that a text denotes. -/
def Table.parse (t : Text) : Except DocumentFault Table :=
  let t := joinReturns t
  (Draft.readAll (t.length + 1) {} t).map Draft.root

end HostCall.Toml
