import ExprMarkup.Dialect

namespace ExprMarkup

/-- What a rendering leaves behind beside its result. -/
inductive Event
  /-- The head has no renderer of its own. -/
  | fallback (head : String)
  /-- A renderer was called for a call with this head and location. -/
  | invoked (head : String) (location : Option Location) (renderer : String)
      (children : List Rendered) (attributes : List (String × Rendered))
      (outcome : Except Failure Fragment)

/-- A computation that leaves events and may fail. Events before a failure remain. -/
structure Run (α : Type) where
  events : List Event
  result : Except Failure α

namespace Run

variable {α β : Type}

protected def pure (a : α) : Run α := ⟨[], .ok a⟩

protected def bind (r : Run α) (next : α → Run β) : Run β :=
  match r.result with
  | .error e => ⟨r.events, .error e⟩
  | .ok a => ⟨r.events ++ (next a).events, (next a).result⟩

instance : Monad Run where
  pure := Run.pure
  bind := Run.bind

def fail (e : Failure) : Run α := ⟨[], .error e⟩

def ofExcept (e : Except Failure α) : Run α := ⟨[], e⟩

def record (e : Event) : Run Unit := ⟨[e], .ok ()⟩

end Run

/-- A renderer's error takes the location of its call, unless it has one. Only the errors that
renderers are meant to raise are given one. -/
def Failure.locate (location : Option Location) : Failure → Failure
  | .error e =>
    match e.cause with
    | .structural _ _ => .error (e.locate location)
    | .attribute _ _ => .error (e.locate location)
    | _ => .error e
  | .fault f => .fault f

namespace Interpret

/-- The dialect is needed for the escaped text of a literal. -/
def literal (d : Option Dialect) (value : Literal) : Run Rendered :=
  match d with
  | some d => .ofExcept ((value.toValue.escape d.escaper).mapError .fault)
  | none => .fail (.fault .noDialect)

/-- What a symbol stands for; `none` is something that has no text. -/
def symbol (scope : Scope) (name : String) (location : Option Location) : Run (Option Rendered) :=
  match scope.resolve name with
  | some (.fragment f) => pure (some (.one f))
  | some _ => pure none
  | none => .fail (.error ⟨.scope (.missingSymbol name), location⟩)

/-- The renderer of a head: what the scope binds it to, or else the dialect's fallback. -/
def chooseRenderer (d : Option Dialect) (config : Config) (scope : Scope) (head : String) :
    Run (Option Renderer) :=
  match scope.resolveCall head with
  | some (.renderer r) => pure (some r)
  | some _ => pure none
  | none => do
    Run.record (.fallback head)
    match d with
    | some d => return some (d.fallback head config)
    | none => .fail (.fault .noDialect)

/-- Calls a renderer on rendered arguments. If one of them has no text it fails. -/
def invoke (renderer : Option Renderer) (head : String) (location : Option Location)
    (children : List (Option Rendered)) (attributes : List (String × Option Rendered)) :
    Run Rendered :=
  match renderer with
  | none => .fail (.fault .notCallable)
  | some r =>
    match children.mapM id, attributes.mapM fun e => e.2.map fun value => (e.1, value) with
    | some children, some attributes =>
      let outcome := r.run children attributes
      ⟨[.invoked head location r.label children attributes outcome],
        (outcome.mapError (Failure.locate location)).map .one⟩
    | _, _ => .fail ((r.failure children attributes).locate location)

def tooDeep (config : Config) (location : Option Location) : Failure :=
  .malformed (.depthExceeded (.scalar config.maxDepth)) location

mutual

/-- What a node comes to; `none` is a symbol without text, which fails where its text is needed. Nothing
but the configuration limits the depth: there is always room on the stack. -/
def node (d : Option Dialect) (config : Config) (scope : Scope) (depth : Nat) :
    Tree → Run (Option Rendered)
  | .literal value location =>
    if config.isExceededBy depth then .fail (tooDeep config location)
    else do return some (← literal d value)
  | .symbol name location =>
    if config.isExceededBy depth then .fail (tooDeep config location)
    else symbol scope name location
  | .call head args named location =>
    if config.isExceededBy depth then .fail (tooDeep config location)
    else do
      let renderer ← chooseRenderer d config scope head
      let children ← positional d config scope (depth + 1) args
      let attributes ← keyed d config scope (depth + 1) named
      return some (← invoke renderer head location children attributes)
  | .bare location =>
    if config.isExceededBy depth then .fail (tooDeep config location)
    else .fail (.malformed .unknownNode location)

def positional (d : Option Dialect) (config : Config) (scope : Scope) (depth : Nat) :
    List Tree → Run (List (Option Rendered))
  | [] => pure []
  | t :: rest => do
    let first ← node d config scope depth t
    let others ← positional d config scope depth rest
    return first :: others

def keyed (d : Option Dialect) (config : Config) (scope : Scope) (depth : Nat) :
    List (String × Tree) → Run (List (String × Option Rendered))
  | [] => pure []
  | (name, t) :: rest => do
    let first ← node d config scope depth t
    let others ← keyed d config scope depth rest
    return (name, first) :: others

end

/-- Renders a tree in a scope. Without a dialect there are no literals and no fallback. -/
def render (d : Option Dialect) (config : Config) (scope : Scope) (root : Tree) : Run Rendered := do
  match ← node d config scope 0 root with
  | some value => return value
  | none => .fail (.fault .notFragment)

/-- Renders a tree in the scope that its dialect builds for it, to text. -/
def renderText (d : Dialect) (config : Config) (root : Tree) : Run String := do
  let value ← render (some d) config (d.scopeFor root) root
  return value.asFragment.text

/-- The configuration of a rendering: its own, or else the one in force. -/
def settle (own current : Option Config) : Run Config :=
  match own.or current with
  | some config => pure config
  | none => .fail (.fault .noConfig)

end Interpret

end ExprMarkup
