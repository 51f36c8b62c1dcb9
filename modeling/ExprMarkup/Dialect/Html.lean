import ExprMarkup.Dialect

namespace ExprMarkup.Dialect

/-- Elements without content. -/
def voidTags : List String :=
  ["area", "base", "br", "col", "embed", "hr", "img", "input", "link", "meta", "param", "source",
   "track", "wbr"]

/-- Elements with content. -/
def containerTags : List String :=
  ["a", "abbr", "address", "article", "aside", "audio", "b", "bdi", "bdo", "blockquote", "body",
   "button", "canvas", "caption", "cite", "code", "colgroup", "data", "datalist", "dd", "del",
   "details", "dfn", "dialog", "div", "dl", "dt", "em", "fieldset", "figcaption", "figure", "footer",
   "form", "h1", "h2", "h3", "h4", "h5", "h6", "head", "header", "hgroup", "html", "i", "iframe",
   "ins", "kbd", "label", "legend", "li", "main", "map", "mark", "menu", "meter", "nav", "noscript",
   "object", "ol", "optgroup", "option", "output", "p", "picture", "pre", "progress", "q", "rp", "rt",
   "ruby", "s", "samp", "script", "search", "section", "select", "slot", "small", "span", "strong",
   "style", "sub", "summary", "sup", "table", "tbody", "td", "template", "textarea", "tfoot", "th",
   "thead", "time", "title", "tr", "u", "ul", "var", "video"]

/-- The name under which a tag is registered: a keyword cannot be a name and gets an underscore. -/
def registryName (tag : String) : String := if Text.isKeyword tag then tag ++ "_" else tag

def htmlEntries (selfClosing : Bool) : List (String × Renderer) :=
  (containerTags.map fun tag => (registryName tag, Renderer.container tag)) ++
    voidTags.map fun tag => (registryName tag, Renderer.leaf tag selfClosing)

def htmlRegistry (selfClosing : Bool := true) : Registry := ⟨Table.ofList (htmlEntries selfClosing)⟩

def htmlEntities : List (String × String) :=
  ["nbsp", "amp", "lt", "gt", "quot", "copy", "reg", "trade", "mdash", "ndash", "hellip", "laquo",
   "raquo", "middot", "bull", "times", "deg"].map fun name => (name, "&" ++ name ++ ";")

def html (registry : Option Registry := none) (symbols : Option (List (String × String)) := none)
    (selfClosing : Bool := true) : Dialect where
  name := "html"
  escaper := Text.escapeHtml
  operators := registry.getD (htmlRegistry selfClosing)
  symbols := knownSymbols (symbols.getD htmlEntities)
  fallback head _ := .container head

end ExprMarkup.Dialect
