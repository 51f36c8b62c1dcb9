import ExprMarkup.Dialect

namespace ExprMarkup.Dialect

def functionNames : List String :=
  ["sin", "cos", "tan", "sec", "csc", "cot", "arcsin", "arccos", "arctan", "sinh", "cosh", "tanh",
   "log", "ln", "lg", "exp", "det", "gcd"]

def accentNames : List String :=
  ["hat", "tilde", "bar", "vec", "dot", "ddot", "overline", "underline"]

def latexTemplates : List (String × Template) :=
  [("add", .binary " + "),
   ("sub", .binary " - "),
   ("mul", .binary r" \cdot "),
   ("truediv", .binary " / "),
   ("floordiv", .slots [r"\left\lfloor \frac{", r"}{", r"} \right\rfloor"]),
   ("mod", .binary r" \bmod "),
   ("pow", .slots ["", r"^{", r"}"]),
   ("getitem", .slots ["", r"_{", r"}"]),
   ("neg", .unary "-" ""),
   ("pos", .unary "+" ""),
   ("eq", .binary " = "),
   ("ne", .binary r" \neq "),
   ("lt", .binary " < "),
   ("le", .binary r" \leq "),
   ("gt", .binary " > "),
   ("ge", .binary r" \geq "),
   ("group", .unary r"\left( " r" \right)"),
   ("brackets", .unary r"\left[ " r" \right]"),
   ("braces", .unary r"\left\{ " r" \right\}"),
   ("abs", .unary r"\left| " r" \right|"),
   ("norm", .unary r"\left\| " r" \right\|"),
   ("frac", .slots [r"\frac{", r"}{", r"}"]),
   ("sqrt", .unary r"\sqrt{" r"}"),
   ("root", .slots [r"\sqrt[", r"]{", r"}"]),
   ("binom", .slots [r"\binom{", r"}{", r"}"]),
   ("max", .variadic r"\max(" ", " ")" 1),
   ("min", .variadic r"\min(" ", " ")" 1),
   ("paste", .variadic "" " " "" 1)] ++
  (functionNames.map fun name => (name, .unary ("\\" ++ name ++ "(") ")")) ++
  (accentNames.map fun name => (name, .unary ("\\" ++ name ++ r"{") r"}"))

def latexRegistry : Registry :=
  ⟨Table.ofList (latexTemplates.map fun e => (e.1, Renderer.operator e.1 e.2))⟩

def greekNames : List String :=
  ["alpha", "beta", "gamma", "delta", "epsilon", "zeta", "eta", "theta", "iota", "kappa", "lambda",
   "mu", "nu", "xi", "pi", "rho", "sigma", "tau", "upsilon", "phi", "chi", "psi", "omega",
   "Gamma", "Delta", "Theta", "Lambda", "Xi", "Pi", "Sigma", "Upsilon", "Phi", "Psi", "Omega",
   "varepsilon", "vartheta", "varpi", "varrho", "varsigma", "varphi"]

/-- One Greek letter has the name of a keyword, and a second name that can be written. -/
def greekSymbols : List (String × String) :=
  (greekNames.map fun name => (name, "\\" ++ name)) ++ [("lambda_", r"\lambda")]

def latexSymbols : List (String × String) :=
  greekSymbols ++
  [("inf", r"\infty"), ("infinity", r"\infty"), ("partial", r"\partial"), ("nabla", r"\nabla"),
   ("ell", r"\ell"), ("hbar", r"\hbar"), ("cdots", r"\cdots"), ("ldots", r"\ldots")]

def latex (registry : Option Registry := none) (symbols : Option (List (String × String)) := none) :
    Dialect where
  name := "latex"
  escaper := Text.escapeLatex
  operators := registry.getD latexRegistry
  symbols := knownSymbols (symbols.getD latexSymbols)
  fallback head config := .mathFallback head config.separator

end ExprMarkup.Dialect
