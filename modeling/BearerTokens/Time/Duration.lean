import BearerTokens.Number.Decimal

/-!
# Durations in diagnostics

A duration counts milliseconds.  Below one second it is shown in milliseconds;
from one second on in seconds, with the fraction's trailing zeros left out.
-/

namespace BearerTokens
namespace Duration

/-- The fraction of a second, without trailing zeros. -/
def fractionText (millis : Nat) : List Char :=
  if millis = 0 then []
  else if millis % 100 = 0 then '.' :: Decimal.padded 1 (millis / 100)
  else if millis % 10 = 0 then '.' :: Decimal.padded 2 (millis / 10)
  else '.' :: Decimal.padded 3 millis

/-- A duration with its unit. -/
def text (millis : Nat) : String :=
  String.ofList <|
    if millis = 0 then ['0', 'n', 's']
    else if millis < 1000 then Decimal.naturalDigits millis ++ ['m', 's']
    else Decimal.naturalDigits (millis / 1000) ++ fractionText (millis % 1000) ++ ['s']

end Duration
end BearerTokens
