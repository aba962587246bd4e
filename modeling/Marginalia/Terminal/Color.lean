/-
Colors of a terminal.

A color is the terminal's own, one of its palette, or a mixture of red, green and blue.
-/
import Marginalia.Text.Case
import Marginalia.Text.Quoted
import Marginalia.Text.Search

namespace Marginalia

/-- What a color looks like. -/
inductive Shade where
  | unset
  | palette (n : Nat)
  | mixed (red green blue : Nat)
deriving DecidableEq, Repr

/-- A color and how it was written. -/
structure Color where
  name : String
  shade : Shade
deriving DecidableEq, Repr

/-- Where a color goes. -/
inductive Layer where
  | ink
  | ground
deriving DecidableEq, Repr

/-- Why a text names no color. -/
inductive ColorFault where
  | notColor
  /-- A part of a mixture that is no number. -/
  | notNumber (text : String)
  /-- A part of a mixture with too many digits. -/
  | longNumber (digits : Nat)
deriving DecidableEq, Repr

/-- The sentence for a fault. -/
def ColorFault.message : ColorFault → String
  | notColor => "not a color"
  | notNumber t => "invalid literal for int() with base 10: " ++ quoted t
  | longNumber n =>
    "Exceeds the limit (4300 digits) for integer string conversion: value has " ++ toString n ++
      " digits; use sys.set_int_max_str_digits() to increase the limit"

namespace Color

/-- The number of digits that a part of a mixture may have. -/
def digitLimit : Nat := 4300

/-- The names of the palette with their numbers. -/
def paletteNames : List (String × Nat) :=
  (tableWords
  "black:0 red:1 green:2 yellow:3 blue:4 magenta:5 cyan:6 white:7 bright_black:8 bright_red:9
   bright_green:a bright_yellow:b bright_blue:c bright_magenta:d bright_cyan:e bright_white:f
   grey0:10 gray0:10 navy_blue:11 dark_blue:12 blue3:14 blue1:15 dark_green:16
   deep_sky_blue4:19 dodger_blue3:1a dodger_blue2:1b green4:1c spring_green4:1d turquoise4:1e
   deep_sky_blue3:20 dodger_blue1:21 green3:28 spring_green3:29 dark_cyan:24 light_sea_green:25
   deep_sky_blue2:26 deep_sky_blue1:27 spring_green2:2f cyan3:2b dark_turquoise:2c
   turquoise2:2d green1:2e spring_green1:30 medium_spring_green:31 cyan2:32 cyan1:33
   dark_red:58 deep_pink4:7d purple4:37 purple3:38 blue_violet:39 orange4:5e grey37:3b
   gray37:3b medium_purple4:3c slate_blue3:3e royal_blue1:3f chartreuse4:40 dark_sea_green4:47
   pale_turquoise4:42 steel_blue:43 steel_blue3:44 cornflower_blue:45 chartreuse3:4c
   cadet_blue:49 sky_blue3:4a steel_blue1:51 pale_green3:72 sea_green3:4e aquamarine3:4f
   medium_turquoise:50 chartreuse2:70 sea_green2:53 sea_green1:55 aquamarine1:7a
   dark_slate_gray2:57 dark_magenta:5b dark_violet:80 purple:81 light_pink4:5f plum4:60
   medium_purple3:62 slate_blue1:63 yellow4:6a wheat4:65 grey53:66 gray53:66
   light_slate_grey:67 light_slate_gray:67 medium_purple:68 light_slate_blue:69
   dark_olive_green3:95 dark_sea_green:6c light_sky_blue3:6e sky_blue2:6f dark_sea_green3:96
   dark_slate_gray3:74 sky_blue1:75 chartreuse1:76 light_green:78 pale_green1:9c
   dark_slate_gray1:7b red3:a0 medium_violet_red:7e magenta3:a4 dark_orange3:a6 indian_red:a7
   hot_pink3:a8 medium_orchid3:85 medium_orchid:86 medium_purple2:8c dark_goldenrod:88
   light_salmon3:ad rosy_brown:8a grey63:8b gray63:8b medium_purple1:8d gold3:b2 dark_khaki:8f
   navajo_white3:90 grey69:91 gray69:91 light_steel_blue3:92 light_steel_blue:93 yellow3:b8
   dark_sea_green2:9d light_cyan3:98 light_sky_blue1:99 green_yellow:9a dark_olive_green2:9b
   dark_sea_green1:c1 pale_turquoise1:9f deep_pink3:a2 magenta2:c8 hot_pink2:a9 orchid:aa
   medium_orchid1:cf orange3:ac light_pink3:ae pink3:af plum3:b0 violet:b1 light_goldenrod3:b3
   tan:b4 misty_rose3:b5 thistle3:b6 plum2:b7 khaki3:b9 light_goldenrod2:de light_yellow3:bb
   grey84:bc gray84:bc light_steel_blue1:bd yellow2:be dark_olive_green1:c0 honeydew2:c2
   light_cyan1:c3 red1:c4 deep_pink2:c5 deep_pink1:c7 magenta1:c9 orange_red1:ca indian_red1:cc
   hot_pink:ce dark_orange:d0 salmon1:d1 light_coral:d2 pale_violet_red1:d3 orchid2:d4
   orchid1:d5 orange1:d6 sandy_brown:d7 light_salmon1:d8 light_pink1:d9 pink1:da plum1:db
   gold1:dc navajo_white1:df misty_rose1:e0 thistle1:e1 yellow1:e2 light_goldenrod1:e3
   khaki1:e4 wheat1:e5 cornsilk1:e6 grey100:e7 gray100:e7 grey3:e8 gray3:e8 grey7:e9 gray7:e9
   grey11:ea gray11:ea grey15:eb gray15:eb grey19:ec gray19:ec grey23:ed gray23:ed grey27:ee
   gray27:ee grey30:ef gray30:ef grey35:f0 gray35:f0 grey39:f1 gray39:f1 grey42:f2 gray42:f2
   grey46:f3 gray46:f3 grey50:f4 gray50:f4 grey54:f5 gray54:f5 grey58:f6 gray58:f6 grey62:f7
   gray62:f7 grey66:f8 gray66:f8 grey70:f9 gray70:f9 grey74:fa gray74:fa grey78:fb gray78:fb
   grey82:fc gray82:fc grey85:fd gray85:fd grey89:fe gray89:fe grey93:ff gray93:ff").map fun cs => match splitChars ':' cs with
    | [name, n] => (String.ofList name, hexValue n)
    | _ => ("", 0)

/-- What stands between brackets after a word. -/
def bracketed? (word : String) (cs : List Char) : Option (List Char) :=
  let start := word.toList ++ ['(']
  if start.isPrefixOf cs && cs.getLast? == some ')' then some ((cs.drop start.length).dropLast)
  else none

/-- A mixture written as six digits in base sixteen. -/
def hexShade? : List Char → Option Shade
  | ['#', a, b, c, d, e, f] =>
    if [a, b, c, d, e, f].all fun c => c.isDigit || ('a' ≤ c && c ≤ 'f') then
      some (.mixed (hexValue [a, b]) (hexValue [c, d]) (hexValue [e, f]))
    else none
  | _ => none

/-- A color of the palette written with its number. -/
def numberedShade? (cs : List Char) : Option Shade := do
  let ds ← bracketed? "color" cs
  let n := ds.foldl (fun n c => n * 10 + (digitValue? c).getD 0) 0
  if 0 < ds.length && ds.length ≤ 3 && ds.all Char.isDigit && n < 256 then some (.palette n)
  else none

/-- A part of a mixture. -/
def component (cs : List Char) : Except ColorFault Nat :=
  match cs.mapM digitValue? with
  | some [] | none => .error (.notNumber (String.ofList cs))
  | some ds =>
    if Color.digitLimit < ds.length then .error (.longNumber ds.length)
    else .ok (ds.foldl (fun n d => n * 10 + d) 0)

/-- A mixture written as three numbers below 256. -/
def mixedShade (cs : List Char) : Except ColorFault Shade :=
  match bracketed? "rgb" cs with
  | none => .error .notColor
  | some parts =>
    if parts.isEmpty || !parts.all fun c => c == ',' || (digitValue? c).isSome then .error .notColor
    else match splitChars ',' parts with
      | [r, g, b] => do
        let (r, g, b) := (← component r, ← component g, ← component b)
        if r < 256 && g < 256 && b < 256 then return .mixed r g b else throw .notColor
      | _ => .error .notColor

/-- Reads a color. -/
def ofText (s : String) : Except ColorFault Color :=
  let name := String.ofList (Search.strip isBlank (Case.lower s).toList)
  let cs := name.toList
  let shade : Except ColorFault Shade :=
    if name == "default" then .ok .unset
    else match (paletteNames.lookup name).map Shade.palette <|> hexShade? cs <|> numberedShade? cs with
      | some k => .ok k
      | none => mixedShade cs
  shade.map fun k => ⟨name, k⟩

/-- The codes that turn a color on. -/
def codes (c : Color) (l : Layer) : List Nat :=
  let isInk := l == .ink
  let wide := if isInk then 38 else 48
  match c.shade with
  | .unset => [if isInk then 39 else 49]
  | .palette n =>
    if n < 8 then [(if isInk then 30 else 40) + n]
    else if n < 16 then [(if isInk then 82 else 92) + n]
    else [wide, 5, n]
  | .mixed r g b => [wide, 2, r, g, b]

end Color

end Marginalia
