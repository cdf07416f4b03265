import MqAssembler.Decimal.Binary64
import MqAssembler.Text.Layout
import MqAssembler.Text.Quoted
import MqAssembler.Yaml.Token

/-! # What a scalar stands for

A plain scalar may be empty, a truth value, an integer or a floating-point number; otherwise it is
text. Integers are decimal without leading zeros, or have a base prefix. A tag may call for one of
these, whatever the style of the scalar, and a tag that is not local makes any other scalar text. -/

namespace MqAssembler.Yaml

/-- Width in which an integer is held. -/
inductive Width where
  /-- Sixty-four bits. -/
  | word
  /-- A hundred and twenty-eight bits, without sign. -/
  | wide
  /-- A hundred and twenty-eight bits, with sign. -/
  | wideSigned
deriving DecidableEq, Repr

/-- The number of values of sixty-four bits. -/
def wordBound : Nat := 18446744073709551616

/-- The number of values of a hundred and twenty-eight bits. -/
def wideBound : Nat := wordBound * wordBound

/-- What a node turns out to be. -/
inductive Shape where
  | unit
  | boolean (b : Bool)
  | integer (n : Int) (width : Width)
  /-- A floating-point number in its shortest decimal form. -/
  | float (text : String)
  | string (s : String)
  | sequence
  | mapping
deriving DecidableEq, Repr

namespace Plain

/-- Whether a text spells out the absence of a value. -/
def isNullWord (s : String) : Bool :=
  s ∈ ["~", "null", "Null", "NULL"]

/-- Whether a plain scalar stands for the absence of a value. -/
def isNull (s : String) : Bool :=
  s == "" || isNullWord s

/-- The truth value that a plain scalar spells. -/
def boolean? (s : String) : Option Bool :=
  if s ∈ ["true", "True", "TRUE"] then some true
  else if s ∈ ["false", "False", "FALSE"] then some false
  else none

/-- The value of a digit in a base up to sixteen. -/
def digit? (base : Nat) (c : Char) : Option Nat :=
  let v :=
    if c.isDigit then c.toNat - '0'.toNat
    else if 'a' ≤ c ∧ c ≤ 'f' then c.toNat - 'a'.toNat + 10
    else if 'A' ≤ c ∧ c ≤ 'F' then c.toNat - 'A'.toNat + 10
    else base
  if v < base then some v else none

/-- The number written by some digits, at least one. -/
def digits? (base : Nat) (cs : List Char) : Option Nat :=
  if cs.isEmpty then none
  else cs.foldlM (fun n c => (digit? base c).map fun d => base * n + d) 0

/-- Whether a text is nothing but digits with a needless zero in front, apart from a sign. -/
def hasLeadingZero (cs : List Char) : Bool :=
  let unsigned :=
    match cs with
    | '-' :: rest => rest
    | '+' :: rest => rest
    | _ => cs
  match unsigned with
  | '0' :: d :: rest => (d :: rest).all Char.isDigit
  | _ => false

/-- The number that some characters write, with a base prefix or in decimal. -/
def magnitude? : List Char → Option Nat
  | '0' :: 'x' :: rest => digits? 16 rest
  | '0' :: 'o' :: rest => digits? 8 rest
  | '0' :: 'b' :: rest => digits? 2 rest
  | cs => if hasLeadingZero cs then none else digits? 10 cs

/-- The non-negative integer that a plain scalar spells, with an optional plus sign. -/
def natural? (s : String) : Option Nat :=
  match s.toList with
  | '+' :: rest => magnitude? rest
  | cs => magnitude? cs

/-- The integer with a minus sign that a plain scalar spells. -/
def negative? (s : String) : Option Int :=
  match s.toList with
  | '-' :: rest => (magnitude? rest).map fun n => -(n : Int)
  | _ => none

/-- The integer that a plain scalar spells, if 128 bits can hold it. -/
def integer? (s : String) : Option Shape :=
  match natural? s, negative? s with
  | some n, _ =>
      if n < wordBound then some (.integer n .word)
      else if n < wideBound then some (.integer n .wide)
      else none
  | none, some n =>
      if -(wordBound / 2 : Nat) ≤ n then some (.integer n .word)
      else if -(wideBound / 2 : Nat) ≤ n then some (.integer n .wideSigned)
      else none
  | none, none => none

/-- The exponent of a decimal: nothing at all, or a letter, an optional sign and digits. -/
def exponent? : List Char → Option Int
  | [] => some 0
  | c :: rest =>
      if c == 'e' || c == 'E' then
        match rest with
        | '-' :: digits => (digits? 10 digits).map fun n => -(n : Int)
        | '+' :: digits => (digits? 10 digits).map fun n => (n : Int)
        | digits => (digits? 10 digits).map fun n => (n : Int)
      else none

/-- The decimal that some characters write: digits with an optional point among them, and an
optional exponent. -/
def decimal? (cs : List Char) : Option Decimal.Scientific := do
  let whole := cs.takeWhile Char.isDigit
  let rest := cs.dropWhile Char.isDigit
  let (fraction, rest) :=
    match rest with
    | '.' :: rest => (rest.takeWhile Char.isDigit, rest.dropWhile Char.isDigit)
    | rest => ([], rest)
  let exponent ← exponent? rest
  let coefficient ← digits? 10 (whole ++ fraction)
  return ⟨coefficient, exponent - fraction.length⟩

/-- The shortest form of the finite number that some characters write. -/
def finite? (cs : List Char) : Option String := do
  let x ← Decimal.Binary64.ofScientific? (← decimal? cs)
  return x.shortest.positional

/-- The floating-point number that a text spells, in its shortest form. -/
def float? (s : String) : Option String :=
  if s ∈ [".inf", ".Inf", ".INF", "+.inf", "+.Inf", "+.INF"] then some "inf"
  else if s ∈ ["-.inf", "-.Inf", "-.INF"] then some "-inf"
  else if s ∈ [".nan", ".NaN", ".NAN"] then some "NaN"
  else
    match s.toList with
    | '-' :: rest => (finite? rest).map ("-" ++ ·)
    | '+' :: rest => finite? rest
    | cs => finite? cs

/-- What a plain scalar stands for. -/
def shape (s : String) : Shape :=
  if isNull s then .unit
  else
    match boolean? s with
    | some b => .boolean b
    | none =>
        match integer? s with
        | some i => i
        | none =>
            match if hasLeadingZero s.toList then none else float? s with
            | some x => .float x
            | none => .string s

end Plain

namespace Tagged

/-- What a scalar with a tag stands for, or else what the tag calls for. -/
def shape (tag : Tag) (style : ScalarStyle) (s : String) : Except String Shape :=
  if tag = .boolean then orElse "a boolean" ((Plain.boolean? s).map .boolean)
  else if tag = .integer then orElse "an integer" (Plain.integer? s)
  else if tag = .float then orElse "a float" ((Plain.float? s).map .float)
  else if tag = .null then orElse "null" (if Plain.isNullWord s then some .unit else none)
  else if tag.isLocal ∧ style = .plain then .ok (Plain.shape s)
  else .ok (.string s)
where
  /-- A shape that the tag calls for. -/
  orElse (called : String) (found : Option Shape) : Except String Shape :=
    found.elim (.error called) .ok

end Tagged

namespace Shape

open Text

/-- An integer in decimal digits. -/
def integerText : Int → String
  | .ofNat n => decimal n
  | .negSucc n => "-" ++ decimal (n + 1)

/-- How a shape is called in a message. -/
def describe : Shape → String
  | unit => "unit value"
  | boolean b => "boolean `" ++ (if b then "true" else "false") ++ "`"
  | integer n width =>
      "integer `" ++ integerText n ++ "`" ++
        match width with
        | .word => ""
        | .wide => " as u128"
        | .wideSigned => " as i128"
  | float text => "floating point `" ++ text ++ "`"
  | string s => "string " ++ Quoted.render s
  | sequence => "sequence"
  | mapping => "map"

end Shape

end MqAssembler.Yaml
