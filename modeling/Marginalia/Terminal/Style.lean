/-
Styles of terminal text.

A style turns emphases on or off, gives an ink and a ground color and links to a place;
what it leaves open comes from the style below it.  `ofText` reads a definition such as
`bold red on white`, `text` writes one, and `paint` sets a text in a style.
-/
import Marginalia.Terminal.Color

namespace Marginalia

/-- Ways to set characters apart, beside color. -/
inductive Emphasis where
  | bold
  | dim
  | italic
  | underline
  | blink
  | fastBlink
  | reverse
  | conceal
  | strike
  | doubleUnderline
  | frame
  | encircle
  | overline
deriving DecidableEq, Repr

namespace Emphasis

/-- All of them, in the order they are written. -/
def all : List Emphasis :=
  [bold, dim, italic, underline, blink, fastBlink, reverse, conceal, strike, doubleUnderline, frame,
    encircle, overline]

/-- The word for an emphasis. -/
def word : Emphasis → String
  | bold => "bold"
  | dim => "dim"
  | italic => "italic"
  | underline => "underline"
  | blink => "blink"
  | fastBlink => "blink2"
  | reverse => "reverse"
  | conceal => "conceal"
  | strike => "strike"
  | doubleUnderline => "underline2"
  | frame => "frame"
  | encircle => "encircle"
  | overline => "overline"

/-- The short word for an emphasis that has one. -/
def shortWord? : Emphasis → Option String
  | bold => some "b"
  | dim => some "d"
  | italic => some "i"
  | underline => some "u"
  | reverse => some "r"
  | conceal => some "c"
  | strike => some "s"
  | doubleUnderline => some "uu"
  | overline => some "o"
  | _ => none

/-- The code that turns an emphasis on. -/
def code : Emphasis → Nat
  | bold => 1
  | dim => 2
  | italic => 3
  | underline => 4
  | blink => 5
  | fastBlink => 6
  | reverse => 7
  | conceal => 8
  | strike => 9
  | doubleUnderline => 21
  | frame => 51
  | encircle => 52
  | overline => 53

/-- The emphasis that a word stands for. -/
def ofWord? (w : String) : Option Emphasis :=
  all.find? fun e => e.word == w || e.shortWord? == some w

end Emphasis

/-- How a text is set. -/
structure Style where
  /-- Emphases turned on or off; the first entry for an emphasis counts. -/
  emphases : List (Emphasis × Bool) := []
  ink : Option Color := none
  ground : Option Color := none
  link : Option String := none
deriving DecidableEq, Repr

namespace Style

/-- A style over another one, which shows where the upper one leaves something open. -/
def atop (upper lower : Style) : Style where
  emphases := upper.emphases ++ lower.emphases
  ink := upper.ink <|> lower.ink
  ground := upper.ground <|> lower.ground
  link := upper.link <|> lower.link

/-- Reads the words of a definition into a style; the fault is that of a color. -/
def addWords (s : Style) : List String → Except ColorFault Style
  | [] => .ok s
  | w :: rest =>
    match Case.lower w, rest with
    | "on", [] => .error .notColor
    | "on", c :: rest =>
      match Color.ofText c with
      | .ok c => addWords { s with ground := some c } rest
      | .error f => .error f
    | "not", [] => .error .notColor
    | "not", e :: rest =>
      match Emphasis.ofWord? e with
      | some e => addWords { s with emphases := (e, false) :: s.emphases } rest
      | none => .error .notColor
    | "link", [] => .error .notColor
    | "link", place :: rest => addWords { s with link := some place } rest
    | w, rest =>
      match Emphasis.ofWord? w with
      | some e => addWords { s with emphases := (e, true) :: s.emphases } rest
      | none =>
        match Color.ofText w with
        | .ok c => addWords { s with ink := some c } rest
        | .error f => .error f

/-- Reads a definition. -/
def ofText (s : String) : Except ColorFault Style :=
  match (Search.words none s.toList).map String.ofList with
  | ["none"] => .ok {}
  | ws => addWords {} ws

/-- The definition of a style. -/
def text (s : Style) : String :=
  let emphases := Emphasis.all.filterMap fun e => (s.emphases.lookup e).map fun on =>
    if on then e.word else "not " ++ e.word
  let ground := match s.ground with
    | some c => ["on", c.name]
    | none => []
  let link := match s.link with
    | some place => ["link", place]
    | none => []
  match emphases ++ (s.ink.map Color.name).toList ++ ground ++ link with
  | [] => "none"
  | words => " ".intercalate words

/-- The codes that turn a style on. -/
def codes (s : Style) : List Nat :=
  (Emphasis.all.filter fun e => s.emphases.lookup e == some true).map Emphasis.code
    ++ (s.ink.map (·.codes .ink)).getD [] ++ (s.ground.map (·.codes .ground)).getD []

/-- A text in a style; the style is turned off behind it. -/
def paint (s : Style) (cs : List Char) : List Char :=
  let colored := match s.codes with
    | [] => cs
    | codes => if cs.isEmpty then cs else
      "\x1b[".toList ++ (";".intercalate (codes.map toString)).toList ++ 'm' :: cs
        ++ "\x1b[0m".toList
  match s.link with
  | some place => if cs.isEmpty then cs else
    "\x1b]8;;".toList ++ place.toList ++ "\x1b\\".toList ++ colored ++ "\x1b]8;;\x1b\\".toList
  | none => colored

/-- Styles that have a name of their own, with their definitions. -/
def namedDefinitions : List (String × String) :=
  (splitChars '\n'
  "none: none
   reset: not bold not dim not italic not underline not blink not blink2 not reverse not conceal not strike default on default
   dim: dim
   bright: not dim
   bold: bold
   strong: bold
   code: bold reverse
   italic: italic
   emphasize: italic
   underline: underline
   blink: blink
   blink2: blink2
   reverse: reverse
   strike: strike
   black: black
   red: red
   green: green
   yellow: yellow
   magenta: magenta
   cyan: cyan
   white: white
   inspect.attr: italic yellow
   inspect.attr.dunder: dim italic yellow
   inspect.callable: bold red
   inspect.async_def: italic bright_cyan
   inspect.def: italic bright_cyan
   inspect.class: italic bright_cyan
   inspect.error: bold red
   inspect.equals: none
   inspect.help: cyan
   inspect.doc: dim
   inspect.value.border: green
   live.ellipsis: bold red
   layout.tree.row: not dim red
   layout.tree.column: not dim blue
   logging.keyword: bold yellow
   logging.level.notset: dim
   logging.level.debug: green
   logging.level.info: blue
   logging.level.warning: yellow
   logging.level.error: bold red
   logging.level.critical: bold reverse red
   log.level: none
   log.time: dim cyan
   log.message: none
   log.path: dim
   repr.ellipsis: yellow
   repr.indent: dim green
   repr.error: bold red
   repr.str: not bold not italic green
   repr.brace: bold
   repr.comma: bold
   repr.ipv4: bold bright_green
   repr.ipv6: bold bright_green
   repr.eui48: bold bright_green
   repr.eui64: bold bright_green
   repr.tag_start: bold
   repr.tag_name: bold bright_magenta
   repr.tag_contents: default
   repr.tag_end: bold
   repr.attrib_name: not italic yellow
   repr.attrib_equal: bold
   repr.attrib_value: not italic magenta
   repr.number: bold not italic cyan
   repr.number_complex: bold not italic cyan
   repr.bool_true: italic bright_green
   repr.bool_false: italic bright_red
   repr.none: italic magenta
   repr.url: not bold not italic underline bright_blue
   repr.uuid: not bold bright_yellow
   repr.call: bold magenta
   repr.path: magenta
   repr.filename: bright_magenta
   rule.line: bright_green
   rule.text: none
   json.brace: bold
   json.bool_true: italic bright_green
   json.bool_false: italic bright_red
   json.null: italic magenta
   json.number: bold not italic cyan
   json.str: not bold not italic green
   json.key: bold blue
   prompt: none
   prompt.choices: bold magenta
   prompt.default: bold cyan
   prompt.invalid: red
   prompt.invalid.choice: red
   pretty: none
   scope.border: blue
   scope.key: italic yellow
   scope.key.special: dim italic yellow
   scope.equals: red
   table.header: bold
   table.footer: bold
   table.cell: none
   table.title: italic
   table.caption: dim italic
   traceback.error: italic red
   traceback.border.syntax_error: bright_red
   traceback.border: red
   traceback.text: none
   traceback.title: bold red
   traceback.exc_type: bold bright_red
   traceback.exc_value: none
   traceback.offset: bold bright_red
   traceback.error_range: bold underline
   traceback.note: bold green
   traceback.group.border: magenta
   bar.back: grey23
   bar.complete: rgb(249,38,114)
   bar.finished: rgb(114,156,31)
   bar.pulse: rgb(249,38,114)
   progress.description: none
   progress.filesize: green
   progress.filesize.total: green
   progress.download: green
   progress.elapsed: yellow
   progress.percentage: magenta
   progress.remaining: cyan
   progress.data.speed: red
   progress.spinner: green
   status.spinner: green
   tree: none
   tree.line: none
   markdown.paragraph: none
   markdown.text: none
   markdown.em: italic
   markdown.emph: italic
   markdown.strong: bold
   markdown.code: bold cyan on black
   markdown.code_block: cyan on black
   markdown.block_quote: magenta
   markdown.list: cyan
   markdown.item: none
   markdown.item.bullet: bold
   markdown.item.number: cyan
   markdown.hr: dim
   markdown.h1.border: none
   markdown.h1: bold underline
   markdown.h2: underline magenta
   markdown.h3: bold magenta
   markdown.h4: italic magenta
   markdown.h5: italic
   markdown.h6: dim
   markdown.h7: dim italic
   markdown.link: bright_blue
   markdown.link_url: underline blue
   markdown.s: strike
   markdown.kbd: bold bright_yellow
   markdown.table.border: cyan
   markdown.table.header: not bold cyan
   iso8601.date: blue
   iso8601.time: magenta
   iso8601.timezone: yellow".toList).map fun line =>
    let line := line.dropWhile isBlank
    (String.ofList (line.takeWhile (· != ':')), String.ofList ((line.dropWhile (· != ':')).drop 2))

/-- The style that a name or a definition stands for; none if it cannot be read. -/
def named (s : String) : Except ColorFault Style :=
  match ofText ((namedDefinitions.lookup s).getD s) with
  | .error .notColor => .ok {}
  | r => r

end Style

end Marginalia
