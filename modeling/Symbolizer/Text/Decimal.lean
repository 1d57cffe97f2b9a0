/-!
# Decimal numbers

The texts that are numbers as they are written with a point and an exponent, and the words for what
such numbers do not reach: infinity, and what is no number at all.
-/

namespace Symbolizer.Text.Decimal

/-- The rest behind a sign, if there is one. -/
def behindSign : List Char → List Char
  | '+' :: cs | '-' :: cs => cs
  | cs => cs

/-- The words for what no digits can be written for. -/
def words : List String := ["inf", "infinity", "nan"]

/-- Whether a text is an exponent, or empty. -/
def isExponent : List Char → Bool
  | [] => true
  | e :: cs =>
    (e == 'e' || e == 'E') && !(behindSign cs).isEmpty && (behindSign cs).all Char.isDigit

/-- Whether a text is a number without a sign. There is a digit before the point or behind it. -/
def isUnsigned (cs : List Char) : Bool :=
  match cs.dropWhile Char.isDigit with
  | '.' :: fraction =>
    (cs.head?.any Char.isDigit || fraction.head?.any Char.isDigit) &&
      isExponent (fraction.dropWhile Char.isDigit)
  | rest => cs.head?.any Char.isDigit && isExponent rest

/-- Whether a text is a number, or one of the words, in letters of either case. -/
def isNumber (cs : List Char) : Bool :=
  isUnsigned (behindSign cs) || (String.ofList (behindSign cs)).toLower ∈ words

end Symbolizer.Text.Decimal
