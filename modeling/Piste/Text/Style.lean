/-!
# Terminal styles

Text with select-graphic-rendition escape sequences. A styled span switches its styles on, outermost
first, and switches each off again after the text, innermost first.
-/

namespace Piste.Text

/-- The styles that output uses. -/
inductive Style where
  | bold
  | dimmed
  | red
  | green
  | yellow
  | cyan
  deriving DecidableEq, Repr

namespace Style

/-- The parameter that switches the style on. -/
def onCode : Style → String
  | bold => "1"
  | dimmed => "2"
  | red => "31"
  | green => "32"
  | yellow => "33"
  | cyan => "36"

/-- The parameter that switches the style off. A colour is switched off by the default colour. -/
def offCode : Style → String
  | bold | dimmed => "0"
  | red | green | yellow | cyan => "39"

/-- The escape sequence with the given parameter. -/
def sequence (code : String) : String :=
  "\x1b[" ++ code ++ "m"

/-- The text in this style. -/
def apply (style : Style) (text : String) : String :=
  sequence style.onCode ++ text ++ sequence style.offCode

end Style

/-- A piece of output, in the given styles from the outermost to the innermost. -/
structure Span where
  styles : List Style
  text : String
  deriving DecidableEq, Repr

namespace Span

/-- Text without a style. -/
def plain (text : String) : Span := ⟨[], text⟩

instance : Coe String Span := ⟨plain⟩

/-- The text with the escape sequences of its styles. -/
def render (span : Span) : String :=
  span.styles.foldr Style.apply span.text

end Span

/-- Text in one style. -/
def Style.span (style : Style) (text : String) : Span := ⟨[style], text⟩

/-- The spans one after another, as they go to the terminal. -/
def renderSpans (spans : List Span) : String :=
  String.join (spans.map Span.render)

end Piste.Text
