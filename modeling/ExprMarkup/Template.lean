import ExprMarkup.Fragment

namespace ExprMarkup

/-- Pieces of text with a slot between any two, or a list between an opening and a closing text. -/
inductive Template
  | slots (pieces : List String)
  | variadic (opening separator closing : String) (least : Int)
  deriving DecidableEq

namespace Template

def unary (left right : String) : Template := .slots [left, right]

def binary (separator : String) : Template := .slots ["", separator, ""]

/-- The pieces stand around the slots, so there is one more of them. -/
def arity (pieces : List String) : Int := pieces.length - 1

/-- Arguments and the pieces that follow them, by turns; the two lists must be equally long. -/
def interleave : List String → List String → Except Fault String
  | [], [] => .ok ""
  | arg :: args, piece :: pieces => do return arg ++ piece ++ (← interleave args pieces)
  | _, _ => .error .slotMismatch

def fill : Template → List Fragment → Except Fault String
  | .slots [], _ => .error .noPieces
  | .slots (piece :: pieces), args => do
    return piece ++ (← interleave (args.map Fragment.text) pieces)
  | .variadic opening separator closing _, args =>
    .ok (opening ++ joinTexts separator (args.map Fragment.text) ++ closing)

end Template

end ExprMarkup
