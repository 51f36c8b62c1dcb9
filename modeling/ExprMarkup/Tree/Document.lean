import ExprMarkup.Json.Printer
import ExprMarkup.Json.Reader
import ExprMarkup.Tree

namespace ExprMarkup.Tree

/-- What can be wrong with a document. -/
inductive DocumentError
  | notObject (kind : String)
  | missingType
  | unknownType (type : Value)
  | missingField (field owner : String)
  /-- A location lacks its line or its column. -/
  | missingPlace (field : String)
  /-- A location is something, but no object. -/
  | locationNotObject (location : Value)
  /-- What stands for the arguments of a call cannot be gone through. -/
  | notIterable (arguments : Value)
  /-- What stands for a named argument cannot be gone through. -/
  | notUnpackable (pair : Value)
  /-- A named argument has more or fewer than two elements. -/
  | pairLength (size : Nat)
  /-- The name of a named argument cannot be a key. -/
  | unhashableName (name : Value)
  /-- A node of no known kind has no document. -/
  | unknownNode
  | json (trouble : Json.Trouble)
  | unprintable (why : Json.Unprintable)
  /-- A node cannot be made. -/
  | invalid (failure : Failure)

/-- The message, for those errors that are raised with one. -/
def DocumentError.message? : DocumentError → Option String
  | .notObject kind => some ("Expected a dict, got " ++ kind)
  | .missingType => some "Missing '_type' field in serialized node"
  | .unknownType type => if type.isShowable then some ("Unknown node type: " ++ type.shown) else none
  | .missingField field owner =>
    some ("Missing field " ++ Text.quoted field ++ " in serialized " ++ owner)
  | .unknownNode => some "Unknown node type: Node"
  | .invalid (.error error) => some error.text
  | _ => none

/-- A place that is missing inside a call counts as a missing field of the call. -/
def DocumentError.inCall : DocumentError → DocumentError
  | .missingPlace field => .missingField field "Call"
  | e => e

def locationEntries (l : Location) : List (String × Value) :=
  [("lineno", l.line), ("col_offset", l.column), ("end_lineno", l.endLine),
   ("end_col_offset", l.endColumn), ("source_file", l.file)]

def locationMember : Option Location → List (String × Value)
  | some l => [("location", .dict (locationEntries l))]
  | none => []

/-- Sequences are written as lists. -/
def literalValue : Literal → Value
  | .scalar s => .scalar s
  | .sequence items => .list (items.map .scalar)

mutual

/-- A node is an object whose `_type` says what it is. A location is written if there is one. -/
def toDocument : Tree → Except DocumentError Value
  | .literal value location =>
    .ok (.dict ([("_type", .text "Literal"), ("value", literalValue value)] ++
      locationMember location))
  | .symbol name location =>
    .ok (.dict ([("_type", .text "Symbol"), ("name", .text name)] ++ locationMember location))
  | .call head args named location => do
    let args ← argDocuments args
    let named ← namedDocuments named
    return .dict ([("_type", .text "Call"), ("head", .text head), ("args", .list args),
      ("named", .list named)] ++ locationMember location)
  | .bare _ => .error .unknownNode

def argDocuments : List Tree → Except DocumentError (List Value)
  | [] => .ok []
  | t :: rest => do
    let first ← toDocument t
    return first :: (← argDocuments rest)

def namedDocuments : List (String × Tree) → Except DocumentError (List Value)
  | [] => .ok []
  | (name, t) :: rest => do
    let first ← toDocument t
    return .list [.text name, first] :: (← namedDocuments rest)

end

def field? (entries : List (String × Value)) (key : String) : Option Value :=
  (entries.find? fun e => e.1 == key).map Prod.snd

/-- A location that counts as nothing is none; any other has to be an object with its two places. -/
def readLocation (entries : List (String × Value)) : Except DocumentError (Option Location) :=
  match field? entries "location" with
  | none => .ok none
  | some v =>
    if !v.isTruthy then .ok none
    else match v with
      | .dict parts =>
        match field? parts "lineno" with
        | none => .error (.missingPlace "lineno")
        | some line =>
          match field? parts "col_offset" with
          | none => .error (.missingPlace "col_offset")
          | some column =>
            let optional (key : String) : Value := (field? parts key).getD .absent
            .ok (some ⟨line, column, optional "end_lineno", optional "end_col_offset",
              optional "source_file"⟩)
      | v => .error (.locationNotObject v)

/-- Lists, texts and objects can be gone through. -/
def isIterable : Value → Bool
  | .list _ | .tuple _ | .dict _ | .bytes _ | .scalar (.text _) => true
  | _ => false

/-- The arguments of a call have to be something that can be gone through. -/
def checkIterable (entries : List (String × Value)) (key : String) : Except DocumentError Unit :=
  match field? entries key with
  | none => .ok ()
  | some v => if isIterable v then .ok () else .error (.notIterable v)

def readLiteral (entries : List (String × Value)) (location : Option Location) :
    Except DocumentError Tree :=
  match field? entries "value" with
  | none => .error (.missingField "value" "Literal")
  | some (.list items) => (newLiteral (.tuple items) location).mapError .invalid
  | some v => (newLiteral v location).mapError .invalid

def readSymbol (entries : List (String × Value)) (location : Option Location) :
    Except DocumentError Tree :=
  match field? entries "name" with
  | none => .error (.missingField "name" "Symbol")
  | some v => (newSymbol v location).mapError .invalid

/-- An element of a text or an object is a text, and no node. -/
def noElements (size : Nat) : Except DocumentError Unit :=
  if size = 0 then .ok () else .error (.notObject "str")

/-- A text or an object as a pair: two elements are a name and a text, which is no node. -/
def noPair (size : Nat) : DocumentError := if size = 2 then .notObject "str" else .pairLength size

mutual

/-- The tree of a document. What stands in it is checked as the constructors of trees check it, and it may
nest to any depth. -/
def ofDocument : Value → Except DocumentError Tree
  | .dict entries => do
    match field? entries "_type" with
    | none => throw .missingType
    | some (.scalar .absent) => throw .missingType
    | some type =>
      let location ← readLocation entries
      match type with
      | .scalar (.text "Literal") => readLiteral entries location
      | .scalar (.text "Symbol") => readSymbol entries location
      | .scalar (.text "Call") =>
        match field? entries "head" with
        | none => throw (.missingField "head" "Call")
        | some head =>
          checkIterable entries "args"
          checkIterable entries "named"
          let named ← (readNamed entries).mapError .inCall
          let args ← (readArgs entries).mapError .inCall
          (newCall head (args.map .node) (Value.foldPairs (named.map fun e => (e.1, .node e.2)))
            location).mapError .invalid
      | _ => throw (.unknownType type)
  | v => .error (.notObject v.kind)

/-- The nodes under `args`. -/
def readArgs : List (String × Value) → Except DocumentError (List Tree)
  | [] => .ok []
  | (key, v) :: rest => if key == "args" then readElements v else readArgs rest

def readElements : Value → Except DocumentError (List Tree)
  | .list items => readNodes items
  | .tuple items => readNodes items
  | .scalar (.text s) => do
    noElements s.length
    return []
  | .dict entries => do
    noElements entries.length
    return []
  | .bytes data => if data.isEmpty then .ok [] else .error (.notObject "int")
  | v => .error (.notIterable v)

def readNodes : List Value → Except DocumentError (List Tree)
  | [] => .ok []
  | v :: rest => do
    let first ← ofDocument v
    return first :: (← readNodes rest)

/-- The pairs under `named`. -/
def readNamed : List (String × Value) → Except DocumentError (List (Value × Tree))
  | [] => .ok []
  | (key, v) :: rest => if key == "named" then readPairsOf v else readNamed rest

def readPairsOf : Value → Except DocumentError (List (Value × Tree))
  | .list items => readPairs items
  | .tuple items => readPairs items
  | .scalar (.text s) => if s = "" then .ok [] else .error (.pairLength 1)
  | .dict entries =>
    match entries with
    | [] => .ok []
    | (key, _) :: _ => .error (noPair key.length)
  | .bytes data =>
    match data with
    | [] => .ok []
    | byte :: _ => .error (.notUnpackable (.int byte.toNat))
  | v => .error (.notIterable v)

def readPairs : List Value → Except DocumentError (List (Value × Tree))
  | [] => .ok []
  | v :: rest => do
    let first ← readPair v
    return first :: (← readPairs rest)

/-- A name and a node. -/
def readPair : Value → Except DocumentError (Value × Tree)
  | .list [name, v] => do
    let t ← ofDocument v
    if name.isHashable then return (name, t) else throw (.unhashableName name)
  | .tuple [name, v] => do
    let t ← ofDocument v
    if name.isHashable then return (name, t) else throw (.unhashableName name)
  | .list items => .error (.pairLength items.length)
  | .tuple items => .error (.pairLength items.length)
  | .scalar (.text s) => .error (noPair s.length)
  | .dict entries => .error (noPair entries.length)
  | .bytes data => .error (if data.length = 2 then .notObject "int" else .pairLength data.length)
  | v => .error (.notUnpackable v)

end

/-- A tree as JSON text. -/
def toJson (indent : Option Nat) (t : Tree) : Except DocumentError String := do
  let document ← toDocument t
  (Json.print indent document).mapError .unprintable

def ofJson (text : String) : Except DocumentError Tree := do
  let document ← (Json.read text).mapError .json
  ofDocument document

end ExprMarkup.Tree
