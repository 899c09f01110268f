import PluginDescriptor.Number.Binary64

/-!
# Shortest decimals

The decimal that stands for a binary64 number: of the decimals that read back as the number, one
with the fewest digits, and of those the nearest, of two the greater. `Binary64.text` writes it
without an exponent and always with a decimal point.
-/

namespace PluginDescriptor.Binary64

/-- A positive number between the bounds of the reals that round to it, all over one denominator. -/
structure Span where
  lower : Nat
  value : Nat
  upper : Nat
  denominator : Nat
  /-- Whether the bounds themselves round to the number. -/
  closed : Bool

/-- The span of `significand * 2 ^ exponent`. Below a power of two the next number is half as far
away as above it. -/
def span (significand : Nat) (exponent : Int) : Span :=
  let scale := Nat.pow 2 exponent.toNat
  let narrow := 2 * significand = significandLimit && leastExponent < exponent
  { lower := (4 * significand - if narrow then 1 else 2) * scale
    value := 4 * significand * scale
    upper := (4 * significand + 2) * scale
    denominator := 4 * Nat.pow 2 (-exponent).toNat
    closed := significand % 2 = 0 }

namespace Span

/-- Whether `count * 10 ^ power` lies in the span. -/
def contains (span : Span) (count : Nat) (power : Int) : Bool :=
  let point := count * Nat.pow 10 power.toNat * span.denominator
  let lower := span.lower * Nat.pow 10 (-power).toNat
  let upper := span.upper * Nat.pow 10 (-power).toNat
  if span.closed then lower ≤ point && point ≤ upper else lower < point && point < upper

/-- The multiple of `10 ^ power` that lies in the span and is nearest to the value, if there is one.
Of two that are equally near it is the greater. -/
def nearest? (span : Span) (power : Int) : Option Nat :=
  let numerator := span.value * Nat.pow 10 (-power).toNat
  let denominator := span.denominator * Nat.pow 10 power.toNat
  let below := numerator / denominator
  let remainder := numerator % denominator
  match span.contains below power, span.contains (below + 1) power with
  | true, true => some (if 2 * remainder < denominator then below else below + 1)
  | true, false => some below
  | false, true => some (below + 1)
  | false, false => none

/-- The least power of ten above the value, as an exponent. -/
def magnitude (span : Span) : Int :=
  if span.denominator ≤ span.value then
    (Nat.toDigits 10 (span.value / span.denominator)).length
  else 1 - (Nat.toDigits 10 (span.denominator / span.value)).length

/-- The decimal `count * 10 ^ power` with the fewest digits in the span. The search starts at the
power of ten above the value, and seventeen digits always suffice. -/
def shortest (span : Span) : Nat × Int :=
  let powers := (List.range 18).map fun (digits : Nat) => span.magnitude - digits
  match powers.findSome? fun power => (span.nearest? power).map fun count => (count, power) with
  | some decimal => decimal
  | none => (0, 0)

end Span

/-- The decimal `count * 10 ^ power` without an exponent and with a decimal point. -/
def positional (count : Nat) (power : Int) : List Char :=
  let digits := Nat.toDigits 10 count
  if 0 ≤ power then digits ++ List.replicate power.toNat '0' ++ ['.', '0']
  else
    let places := (-power).toNat
    let padded := List.replicate (places + 1 - digits.length) '0' ++ digits
    padded.take (padded.length - places) ++ '.' :: padded.drop (padded.length - places)

/-- The text of a number. -/
def text : Binary64 → String
  | .notANumber => "NaN"
  | .infinite negative => if negative then "-inf" else "inf"
  | .finite negative significand exponent =>
    let magnitude :=
      if significand = 0 then ['0', '.', '0']
      else
        let (count, power) := (span significand exponent).shortest
        positional count power
    String.ofList (if negative then '-' :: magnitude else magnitude)

end PluginDescriptor.Binary64
