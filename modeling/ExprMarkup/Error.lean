import ExprMarkup.Location

namespace ExprMarkup

/-- What a name is needed for. -/
inductive NameRole
  | symbolName
  | callHead
  | namedArgument
  deriving DecidableEq

def NameRole.label : NameRole → String
  | .symbolName => "symbol name"
  | .callHead => "call head"
  | .namedArgument => "named argument"

/-- Ways in which an expression breaks the rules of its form. -/
inductive Malformation
  | invalidSource (detail : String)
  | sourceTooDeep
  | notExpression (kind : String)
  | unsupportedSyntax (kind : String)
  | unsupportedLiteral (kind : String)
  | unsupportedOperator (name : String)
  | unsupportedComparison (name : String)
  | chainedComparison
  | headNotName (kind : String)
  | starArgument
  | doubleStarArgument
  | sequenceNotConstant
  | notLiteral (kind : String)
  | notIdentifier (role : NameRole) (got : Value)
  | duplicateName (name : String)
  | namedNotNode (name : String)
  | argumentNotNode (head : String)
  | unknownNode
  | depthExceeded (limit : Value)
  | other (message : String)

def Malformation.message : Malformation → String
  | .invalidSource detail => "invalid expression: " ++ detail
  | .sourceTooDeep => "expression nests too deeply"
  | .notExpression kind => "expected an expression, got " ++ kind
  | .unsupportedSyntax kind => "unsupported syntax: " ++ kind
  | .unsupportedLiteral kind => "unsupported literal of type " ++ kind
  | .unsupportedOperator name => "unsupported operator " ++ name
  | .unsupportedComparison name => "unsupported comparison " ++ name
  | .chainedComparison => "chained comparisons are not supported"
  | .headNotName kind => "call head must be a plain name, got " ++ kind
  | .starArgument => "star-arguments are not supported"
  | .doubleStarArgument => "**-arguments are not supported"
  | .sequenceNotConstant => "sequence literals may only hold constants"
  | .notLiteral kind => "literal must be a scalar or a tuple of scalars, got " ++ kind
  | .notIdentifier role got => role.label ++ " must be a plain identifier, got " ++ got.shown
  | .duplicateName name => "duplicate named argument " ++ Text.quoted name
  | .namedNotNode name => "named argument " ++ Text.quoted name ++ " is not a node"
  | .argumentNotNode head => "argument of " ++ Text.quoted head ++ " is not a node"
  | .unknownNode => "unknown node type: Node"
  | .depthExceeded limit => "expression nesting exceeds max depth of " ++ limit.display
  | .other message => message

/-- Ways in which a renderer rejects the children it is given. -/
inductive Misuse
  | voidElement
  | namedArguments (names : List String)
  | multipleValues (position count : Nat)
  | wrongCount (arity : Int) (count : Nat)
  | tooFew (least : Int) (count : Nat)
  | other (message : String)
  deriving DecidableEq

def joinTexts (separator : String) : List String → String
  | [] => ""
  | [s] => s
  | s :: rest => s ++ separator ++ joinTexts separator rest

theorem joinTexts_eq_intercalate (separator : String) (texts : List String) :
    joinTexts separator texts = separator.intercalate texts := by
  fun_induction joinTexts separator texts with
  | case1 => rfl
  | case2 text => rw [String.intercalate_singleton]
  | case3 text rest hne ih =>
    cases rest with
    | nil => exact absurd rfl hne
    | cons next rest => rw [ih, String.intercalate_cons_cons]

def Misuse.message (name : String) : Misuse → String
  | .voidElement => "<" ++ name ++ "> cannot have children"
  | .namedArguments names =>
    name ++ "() takes no named arguments (got " ++ joinTexts ", " names ++ ")"
  | .multipleValues position count =>
    name ++ "() argument " ++ Decimal.intText position ++ " must be a single value, got "
      ++ Decimal.intText count
  | .wrongCount arity count =>
    name ++ "() takes " ++ Decimal.intText arity ++ " argument(s), got " ++ Decimal.intText count
  | .tooFew least count =>
    name ++ "() takes at least " ++ Decimal.intText least ++ " argument(s), got "
      ++ Decimal.intText count
  | .other message => message

/-- Ways in which a value is no attribute value. -/
inductive AttributeMisuse
  | severalValues (count : Nat)
  | other (message : String)
  deriving DecidableEq

def AttributeMisuse.message (name : String) : AttributeMisuse → String
  | .severalValues count =>
    "attribute " ++ Text.quoted name ++ " needs a single value, got " ++ Decimal.intText count
  | .other message => message

inductive ScopeGap
  | missingSymbol (name : String)
  | other (message : String)
  deriving DecidableEq

def ScopeGap.message : ScopeGap → String
  | .missingSymbol name => "symbol " ++ Text.quoted name ++ " is missing from its scope chain"
  | .other message => message

/-- The families of errors. `structural` and `attribute` name the renderer or the attribute. -/
inductive Cause
  | malformed (why : Malformation)
  | structural (name : String) (why : Misuse)
  | attribute (name : String) (why : AttributeMisuse)
  | scope (why : ScopeGap)
  | general (message : String)

def Cause.message : Cause → String
  | .malformed why => why.message
  | .structural name why => why.message name
  | .attribute name why => why.message name
  | .scope why => why.message
  | .general message => message

/-- The name that an error carries beside its message. -/
def Cause.name? : Cause → Option String
  | .structural name _ => some name
  | .attribute name _ => some name
  | _ => none

structure Error where
  cause : Cause
  location : Option Location

namespace Error

def message (e : Error) : String := e.cause.message

/-- The message, after the location if the line is known. -/
def text (e : Error) : String :=
  match e.location with
  | some l => if l.line.isTruthy then l.text ++ " " ++ e.message else e.message
  | none => e.message

/-- An error keeps the location that it has; one without takes the given one. -/
def locate (e : Error) (location : Option Location) : Error :=
  match e.location with
  | some _ => e
  | none => { e with location := location }

end Error

/-- Breakdowns without a message. -/
inductive Fault
  /-- An integer has too many digits to be written. -/
  | digitLimit
  /-- The source text, or the name of its file, contains a null character. -/
  | nullCharacter
  /-- The source text contains a surrogate that stands alone. -/
  | notEncodable
  /-- The parser has no room left for the source text. -/
  | outOfMemory
  /-- A hand-made syntax object lacks a part that is needed. -/
  | missingPart
  /-- A hand-made syntax object has a part of the wrong kind. -/
  | wrongPart
  /-- A named argument's name cannot be a key. -/
  | unhashableName
  /-- A named argument has the name of a parameter of the constructor, or a name that is no text. -/
  | reservedName
  /-- The separator of the fallback is no text and cannot join anything. -/
  | separatorNotText
  /-- The separator of the fallback joins something else than text. -/
  | separatorMismatch
  /-- A template without pieces cannot be filled. -/
  | noPieces
  /-- A template has more or fewer slots than it is given arguments. -/
  | slotMismatch
  /-- The name in head position stands for something else than a renderer. -/
  | notCallable
  /-- The text of a symbol is needed that stands for something else than a fragment. -/
  | notFragment
  /-- No configuration is in force. -/
  | noConfig
  /-- What depends on the dialect is needed where there is none. -/
  | noDialect
  deriving DecidableEq

inductive Failure
  | error (e : Error)
  | fault (f : Fault)

namespace Failure

def malformed (why : Malformation) (location : Option Location) : Failure :=
  .error ⟨.malformed why, location⟩

end Failure

section

variable {ε ε' α β : Type}

/-- A computation in two steps succeeds when both steps do. -/
theorem bind_eq_ok {x : Except ε α} {next : α → Except ε β} {b : β} :
    (x >>= next) = .ok b ↔ ∃ a, x = .ok a ∧ next a = .ok b := by
  cases x <;> simp [bind, Except.bind]

/-- A computation in two steps fails when one of them does. -/
theorem bind_eq_error {x : Except ε α} {next : α → Except ε β} {e : ε} :
    (x >>= next) = .error e ↔ x = .error e ∨ ∃ a, x = .ok a ∧ next a = .error e := by
  cases x <;> simp [bind, Except.bind]

@[simp] theorem ok_bind (a : α) (next : α → Except ε β) : (Except.ok a >>= next) = next a := rfl

theorem map_eq_ok {x : Except ε α} {f : α → β} {b : β} :
    x.map f = .ok b ↔ ∃ a, x = .ok a ∧ f a = b := by
  cases x <;> simp [Except.map]

@[simp] theorem ok_mapError (a : α) (f : ε → ε') : (Except.ok a).mapError f = .ok a := rfl

@[simp] theorem mapError_eq_ok {x : Except ε α} {f : ε → ε'} {a : α} :
    x.mapError f = .ok a ↔ x = .ok a := by
  cases x with
  | ok b => rw [ok_mapError, Except.ok.injEq, Except.ok.injEq]
  | error e =>
    constructor
    · intro h
      cases h
    · intro h
      cases h

theorem mapError_eq_error {x : Except ε α} {f : ε → ε'} {e' : ε'} :
    x.mapError f = .error e' ↔ ∃ e, x = .error e ∧ f e = e' := by
  cases x with
  | ok a =>
    constructor
    · intro h
      cases h
    · rintro ⟨e, h, -⟩
      cases h
  | error e =>
    constructor
    · intro h
      exact ⟨e, rfl, Except.error.inj h⟩
    · rintro ⟨own, h, rfl⟩
      cases h
      rfl

theorem toOption_eq_some {x : Except ε α} {a : α} : x.toOption = some a ↔ x = .ok a := by
  cases x <;> simp [Except.toOption]

@[simp] theorem pure_eq_ok {a b : α} : (pure a : Except ε α) = .ok b ↔ a = b := by
  simp [pure, Except.pure]

end

end ExprMarkup
