import GpuCluster.Toml.Scalar

/-!
# TOML documents

A document is a sequence of assignments and table headers. A key may be assigned once; a table may
be opened by one header, and keys with dots may only go on with tables that such keys have made.
-/

namespace GpuCluster.Toml

/-- A name in a key: bare, or a string on one line. -/
def simpleKey : Part String := fun text =>
  match text with
  | '"' :: rest => basicBody (rest.length + 1) [] rest
  | '\'' :: rest => literalBody (rest.length + 1) [] rest
  | _ =>
    let isBare := fun (c : Char) => c.isAlphanum || c = '_' || c = '-'
    match text.takeWhile isBare with
    | [] => none
    | name => some (String.ofList name, text.dropWhile isBare)

/-- Keys, arrays and inline tables must be nested less deep than this. -/
def depthLimit : Nat := 80

/-- At most `count` names joined by dots. -/
def names : (count : Nat) → Part (List String)
  | 0, _ => none
  | count + 1, text => do
    let (name, rest) ← simpleKey text
    match skipSpace rest with
    | '.' :: rest =>
      let (more, rest) ← names count (skipSpace rest)
      some (name :: more, rest)
    | rest => some ([name], rest)

/-- A key and the white space around it. -/
def key : Part (List String) := fun text =>
  names (depthLimit - 1) (skipSpace text)

/-- A comment up to the end of its line. -/
def comment : List Char → Option (List Char)
  | '#' :: rest =>
    let after := rest.dropWhile isPlain
    match after with
    | [] => some []
    | after => (newline? after).map fun _ => after
  | text => some text

/-- White space, line ends and comments. -/
def skipFiller : (fuel : Nat) → List Char → Option (List Char)
  | 0, text => some text
  | fuel + 1, text =>
    match skipSpace text with
    | '#' :: rest => (comment ('#' :: rest)).bind (skipFiller fuel)
    | text =>
      match newline? text with
      | some rest => skipFiller fuel rest
      | none => some text

/-- What is known under a name. -/
inductive Node where
  | leaf (value : Toml)
  /-- A table; whether a header or a value opened it, and whether dots made it. -/
  | table (isOpened isDotted : Bool) (entries : List (String × Node))
  /-- The tables of an array that headers with two brackets make, latest first. -/
  | tables (latest : List (String × Node)) (earlier : List (List (String × Node)))

mutual

/-- The value that a node stands for. -/
def Node.value : Node → Toml
  | .leaf v => v
  | .table _ _ entries => .table (entryValues entries)
  | .tables latest earlier => .array (tableValues earlier ++ [.table (entryValues latest)])

def entryValues : List (String × Node) → List (String × Toml)
  | [] => []
  | (name, node) :: rest => (name, node.value) :: entryValues rest

/-- The tables in the order in which they were made. -/
def tableValues : List (List (String × Node)) → List Toml
  | [] => []
  | entries :: rest => tableValues rest ++ [.table (entryValues entries)]

end

abbrev Entries := List (String × Node)

def put (entries : Entries) (name : String) (node : Node) : Entries :=
  if entries.any (·.1 = name) then
    entries.map fun e => if e.1 = name then (name, node) else e
  else entries ++ [(name, node)]

/--
Changes the entries of the table that `path` leads to, making tables that are missing. With
`dotted`, tables that were opened otherwise must not be entered.
-/
def within (dotted : Bool) : (path : List String) → (Bool → Entries → Option Entries) →
    (isDotted : Bool) → Entries → Option Entries
  | [], change, isDotted, entries => change isDotted entries
  | name :: path, change, _, entries =>
    match entries.lookup name with
    | none => do
      let inner ← within dotted path change dotted []
      some (put entries name (.table false dotted inner))
    | some (.leaf _) => none
    | some (.tables latest earlier) => do
      let latest ← within dotted path change false latest
      some (put entries name (.tables latest earlier))
    | some (.table isOpened isDotted inner) =>
      if dotted && isOpened then none
      else do
        let inner ← within dotted path change isDotted inner
        some (put entries name (.table isOpened isDotted inner))

/-- Assigns a value to a key inside a table. -/
def assign (path : List String) (node : Node) (entries : Entries) : Option Entries :=
  match path.getLast? with
  | none => none
  | some name =>
    let change := fun (isDotted : Bool) (entries : Entries) =>
      if isDotted = path.dropLast.isEmpty || (entries.lookup name).isSome then none
      else some (entries ++ [(name, node)])
    within true path.dropLast change false entries

mutual

/-- Any value; arrays and tables may be nested `depth` deep. -/
def value (fuel depth : Nat) : Part Toml := fun text =>
  match fuel, text with
  | 0, _ => none
  | fuel + 1, text =>
    match text with
    | '[' :: rest =>
      if depth = 0 then none
      else (items fuel (depth - 1) rest).map fun (vs, rest) => (.array vs, rest)
    | '\x7b' :: rest =>
      if depth = 0 then none
      else do
        let (entries, rest) ← match skipSpace rest with
          | '\x7d' :: rest => some ([], rest)
          | rest => pairs fuel (depth - 1) [] rest
        some (.table (entryValues entries), rest)
    | '"' :: _ | '\'' :: _ => (quoted text).map fun (s, rest) => (.string s, rest)
    | 't' :: 'r' :: 'u' :: 'e' :: rest => some (.boolean true, rest)
    | 'f' :: 'a' :: 'l' :: 's' :: 'e' :: rest => some (.boolean false, rest)
    | text =>
      if looksLikeMoment text then (moment text).map fun rest => (.instant, rest)
      else number text
termination_by (fuel, 1)

/-- The items of an array, after its opening bracket or a comma. -/
def items (fuel depth : Nat) : Part (List Toml) := fun text =>
  match fuel with
  | 0 => none
  | fuel + 1 => do
    let text ← skipFiller text.length text
    match text with
    | ']' :: rest => some ([], rest)
    | text =>
      let (v, text) ← value fuel depth text
      let text ← skipFiller text.length text
      match text with
      | ',' :: rest => (items fuel depth rest).map fun (vs, rest) => (v :: vs, rest)
      | ']' :: rest => some ([v], rest)
      | _ => none
termination_by (fuel, 0)

/-- The pairs of an inline table, after its opening brace or a comma. -/
def pairs (fuel depth : Nat) (entries : Entries) : Part Entries := fun text =>
  match fuel with
  | 0 => none
  | fuel + 1 => do
    let (path, text) ← key text
    let text ← expect '=' text
    let (v, text) ← value fuel depth (skipSpace text)
    let entries ← assign path (.leaf v) entries
    match skipSpace text with
    | ',' :: rest => pairs fuel depth entries rest
    | '\x7d' :: rest => some (entries, rest)
    | _ => none
termination_by (fuel, 0)

end

inductive Statement where
  | assignment (path : List String) (value : Toml)
  | header (path : List String)
  | arrayHeader (path : List String)

/-- A statement, up to the end of its line. -/
def statement (text : List Char) : Option (Statement × List Char) :=
  match text with
  | '[' :: '[' :: rest => do
    let (path, rest) ← key rest
    let rest ← expect ']' rest
    let rest ← expect ']' rest
    some (.arrayHeader path, rest)
  | '[' :: rest => do
    let (path, rest) ← key rest
    let rest ← expect ']' rest
    some (.header path, rest)
  | text => do
    let (path, rest) ← key text
    let rest ← expect '=' rest
    let (v, rest) ← value (2 * rest.length + 2) (depthLimit - 1) (skipSpace rest)
    some (.assignment path v, rest)

/-- Statements on lines of their own. -/
def statements : (fuel : Nat) → List Char → Option (List Statement)
  | 0, _ => none
  | fuel + 1, text => do
    let text ← skipFiller text.length text
    if text = [] then some []
    else
      let (s, rest) ← statement text
      let rest ← comment (skipSpace rest)
      if rest = [] then some [s]
      else
        let rest ← newline? rest
        (statements fuel rest).map (s :: ·)

/-- A document under construction: its finished part, and the table that is open. -/
structure Draft where
  root : Entries
  path : List String
  isArray : Bool
  entries : Entries

namespace Draft

/-- Puts the open table into its place. -/
def close (d : Draft) : Option Entries :=
  match d.path.getLast? with
  | none => some d.entries
  | some name =>
    let change := fun (_ : Bool) (entries : Entries) =>
      match entries.lookup name with
      | none =>
        some (entries ++ [(name, if d.isArray then .tables d.entries [] else .table true false d.entries)])
      | some (.tables latest earlier) =>
        if d.isArray then some (put entries name (.tables d.entries (latest :: earlier))) else none
      | some (.table false _ _) =>
        if d.isArray then none else some (put entries name (.table true false d.entries))
      | some _ => none
    within false d.path.dropLast change false d.root

/-- Opens the table of a header; a table that only came about as a parent may be opened. -/
def openTable (root : Entries) (path : List String) : Option Draft :=
  match path.getLast? with
  | none => none
  | some name =>
    let inner := fun (entries : Entries) =>
      match entries.lookup name with
      | none => some []
      | some (.table false false inner) => some inner
      | some _ => none
    let rec find : List String → Entries → Option Entries
      | [], entries => inner entries
      | name :: path, entries =>
        match entries.lookup name with
        | none => some []
        | some (.leaf _) => none
        | some (.table _ _ entries) => find path entries
        | some (.tables latest _) => find path latest
    (find path.dropLast root).map fun entries => ⟨root, path, false, entries⟩

/-- Opens a new table of an array of tables. -/
def openArrayTable (root : Entries) (path : List String) : Option Draft :=
  match path.getLast? with
  | none => none
  | some name =>
    let rec find : List String → Entries → Option Unit
      | [], entries =>
        match entries.lookup name with
        | none | some (.tables _ _) => some ()
        | some _ => none
      | name :: path, entries =>
        match entries.lookup name with
        | none => some ()
        | some (.leaf _) => none
        | some (.table _ _ entries) => find path entries
        | some (.tables latest _) => find path latest
    (find path.dropLast root).map fun _ => ⟨root, path, true, []⟩

def run (d : Draft) : Statement → Option Draft
  | .assignment path v => (assign path (.leaf v) d.entries).map fun entries => { d with entries }
  | .header path => d.close.bind (openTable · path)
  | .arrayHeader path => d.close.bind (openArrayTable · path)

end Draft

/-- The entries of a document; a byte order mark may stand before it. -/
def ofText? (text : String) : Option (List (String × Toml)) := do
  let text := match text.toList with
    | '\uFEFF' :: rest => rest
    | text => text
  let statements ← statements (text.length + 1) text
  let draft ← statements.foldlM Draft.run ⟨[], [], false, []⟩
  let entries ← draft.close
  some (entryValues entries)

end GpuCluster.Toml
