import AmazonSimilarSearch.Foundation.Casefold
import AmazonSimilarSearch.Foundation.Checked
import AmazonSimilarSearch.Foundation.Json

/-!
# Normalised Amazon products

`amazon_product_normalization.py`: what becomes of the raw response of the
product search. A number is a Python float; where its conversion from or to an
integer overflows, the normalisation of the whole response raises.
-/
namespace AmazonSimilarSearch.Search
open Foundation

/-- `OverflowError` -/
inductive NormalizeError where
  | overflow
  deriving DecidableEq, Repr

structure NormalizedAmazonProduct where
  source : String
  asin : Option String
  title : String
  brandOrStore : Option String
  priceJpy : Option ℤ
  listPriceJpy : Option ℤ
  currency : Option String
  rating : Option PyFloat
  reviewCount : Option ℤ
  categories : List String
  imageUrl : Option String
  imageUrls : List String
  productUrl : Option String
  shortUrl : Option String
  isPrime : Bool
  availability : Option String
  shipping : Option String
  sourceQuery : Option String
  position : Option ℤ
  description : Option String
  deriving DecidableEq, Repr

def targetCurrency : String := "JPY"
def usdCurrency : String := "USD"

/-- `item.get(key)` -/
def getField (item : Fields) (key : String) : Json := (item.lookup key).getD .null

/-- The dictionaries among the values. -/
def dictItems (items : List Json) : List Fields :=
  items.filterMap fun item => match item with
    | .obj fields => some fields
    | _ => none

def iterProductItems (response : Fields) : List Fields :=
  match getField response "data" with
  | .arr groups => groups.flatMap fun group => match group with
    | .obj fields => [fields]
    | .arr items => dictItems items
    | _ => []
  | _ => []

def asNonEmptyString : Json → Option String
  | .str value => if strip value = "" then none else some (strip value)
  | _ => none

/-- `clean_dupe_strings`; `seen` are the values so far. -/
def cleanDupeStrings (seen : List String) : List (Option String) → List String
  | [] => []
  | none :: values => cleanDupeStrings seen values
  | some value :: values =>
      if value = "" ∨ value ∈ seen then cleanDupeStrings seen values
      else value :: cleanDupeStrings (value :: seen) values

def collectImageUrls (item : Fields) : List String :=
  let highResImages := match getField item "high_res_images" with
    | .arr images => images.map asNonEmptyString
    | _ => []
  let images := (List.range 10).map fun index =>
    asNonEmptyString (getField item ("image_" ++ toString (index + 1)))
  cleanDupeStrings [] (highResImages ++ images)

/-! ## Numbers -/

def isDecimal (c : Char) : Bool := (decimalDigit? c).isSome

/-- The value of a text of decimal digits. -/
def digitsValue (digits : List Char) : ℕ :=
  digits.foldl (fun n c => 10 * n + (decimalDigit? c).getD 0) 0

/-- `(?:\.\d+)?` -/
def fractionDigits (cs : List Char) : List Char :=
  match cs with
  | '.' :: rest => rest.takeWhile isDecimal
  | _ => []

/-- `\d[\d,]*(?:\.\d+)?|\.\d+` at the head of the text: the digits before and after the point. -/
def unsignedNumber? (cs : List Char) : Option (List Char × List Char) :=
  match cs with
  | [] => none
  | c :: rest =>
      if isDecimal c then
        let tail := rest.takeWhile fun c => isDecimal c || c == ','
        some ((c :: tail).filter (· != ','), fractionDigits (rest.drop tail.length))
      else if c = '.' ∧ fractionDigits cs ≠ [] then some ([], fractionDigits cs)
      else none

/-- `float(match.group().replace(",", ""))` of the first match of `NUMBER_PATTERN`. -/
def firstNumber? : List Char → Option PyFloat
  | [] => none
  | c :: cs =>
      let signed := c = '-' ∨ c = '+'
      match unsignedNumber? (if signed then cs else c :: cs) with
      | some (whole, fraction) => some (PyFloat.ofDecimal (c = '-')
          (digitsValue (whole ++ fraction)) (-(fraction.length : ℤ)))
      | none => firstNumber? cs

/-- `float(i)` -/
def floatOfInt (i : ℤ) : Except NormalizeError PyFloat :=
  let number := PyFloat.ofRatio (i < 0) i.natAbs 1
  if number.isFinite then .ok number else .error .overflow

def asNumber : Json → Except NormalizeError (Option PyFloat)
  | .int i => do
      let number ← floatOfInt i
      pure (some number)
  | .float number => pure (if number.isFinite then some number else none)
  | .str value => match firstNumber? value.toList with
    | some number => pure (if number.isFinite then some number else none)
    | none => pure none
  | _ => pure none

/-- `int(number)`: the integer part. -/
def intOfFloat : PyFloat → Except NormalizeError ℤ
  | .finite negative mantissa exponent =>
      let ratio := PyFloat.ratio mantissa exponent
      let whole : ℤ := (ratio.1 / ratio.2 : ℕ)
      .ok (if negative then -whole else whole)
  | _ => .error .overflow

def asInt (value : Json) : Except NormalizeError (Option ℤ) := do
  match ← asNumber value with
  | some number => do
      let whole ← intOfFloat number
      pure (some whole)
  | none => pure none

def asFloat (value : Json) : Except NormalizeError (Option PyFloat) := asNumber value

def asBool : Json → Bool
  | .bool b => b
  | .int i => i == 1
  | .float number => number.eqInt 1
  | .str value => ["1", "true", "yes", "y"].contains (casefold (strip value))
  | _ => false

def asStringList : Json → List String
  | .arr items => items.filterMap asNonEmptyString
  | _ => []

/-- `part in text` -/
def containsText (part text : String) : Bool :=
  text.toList.tails.any fun rest => part.toList.isPrefixOf rest

/-- The currency that a price is written with. -/
def priceCurrency : Json → Option String
  | .str value =>
      let normalized := upper value
      if containsText usdCurrency normalized ∨ containsText "$" normalized then some usdCurrency
      else if containsText targetCurrency normalized ∨ containsText "￥" normalized ∨
          containsText "¥" normalized ∨ containsText "円" normalized then some targetCurrency
      else none
  | _ => none

def detectCurrency (item : Fields) : Option String :=
  match asNonEmptyString (getField item "currency") with
  | some currency => some (upper currency)
  | none => ["price", "old_price", "strike_price", "delivery_price"].findSome? fun key =>
      priceCurrency (getField item key)

/-- `f * g` of finite floats. -/
def mulFloat : PyFloat → PyFloat → PyFloat
  | .finite negative mantissa exponent, .finite negative' mantissa' exponent' =>
      let a := PyFloat.ratio mantissa exponent
      let b := PyFloat.ratio mantissa' exponent'
      PyFloat.ofRatio (negative != negative') (a.1 * b.1) (a.2 * b.2)
  | _, _ => .nan

def convertPriceToJpy (usdToJpyRate : ℤ) (value : Json) (currency : Option String) :
    Except NormalizeError (Option ℤ) := do
  match ← asFloat value with
  | none => pure none
  | some price =>
      if price.isNegative then pure none
      else if currency = some usdCurrency then do
        let rate ← floatOfInt usdToJpyRate
        let yen ← intOfFloat (mulFloat price rate)
        pure (some yen)
      else do
        let yen ← intOfFloat price
        pure (some yen)

/-- `a or b or …`: the first true value, or the last one. -/
def firstTruthy : List Json → Json
  | [] => .null
  | [value] => value
  | value :: values => if value.isTruthy then value else firstTruthy values

/-! ## Products -/

def normalizeProduct (usdToJpyRate : ℤ) (item : Fields) :
    Except NormalizeError (Option NormalizedAmazonProduct) := do
  match asNonEmptyString (getField item "name") with
  | none => pure none
  | some title =>
      let currency := detectCurrency item
      if currency.any fun currency => currency != targetCurrency && currency != usdCurrency then
        pure none
      else do
        let imageUrls := collectImageUrls item
        let priceJpy ← convertPriceToJpy usdToJpyRate
          (firstTruthy [getField item "price_parsed", getField item "price"]) currency
        let listPriceJpy ← convertPriceToJpy usdToJpyRate
          (firstTruthy [getField item "old_price_parsed", getField item "strike_price_parsed",
            getField item "old_price", getField item "strike_price"]) currency
        let rating ← asFloat (getField item "rating")
        let reviewCount ← asInt (getField item "reviews")
        let position ← asInt (getField item "position")
        pure (some {
          source := "amazon"
          asin := asNonEmptyString (getField item "asin")
          title
          brandOrStore := asNonEmptyString (getField item "store_title")
          priceJpy
          listPriceJpy
          currency
          rating
          reviewCount
          categories := asStringList (getField item "categories")
          imageUrl := imageUrls.head?
          imageUrls
          productUrl := asNonEmptyString (getField item "url")
          shortUrl := asNonEmptyString (getField item "short_url")
          isPrime := asBool (getField item "prime")
          availability := asNonEmptyString (getField item "availability")
          shipping := asNonEmptyString (getField item "shipping")
          sourceQuery := asNonEmptyString (getField item "query")
          position
          description := asNonEmptyString (getField item "description") })

/-- `product.asin or product.short_url or product.product_url or product.title` -/
def dedupeKey (product : NormalizedAmazonProduct) : String :=
  ((product.asin.orElse fun _ => product.shortUrl).orElse fun _ => product.productUrl).getD
    product.title

/-- The loop over the items; `seen` are the keys of the products kept so far. -/
def normalizeItems (usdToJpyRate : ℤ) (seen : List String) :
    List Fields → Except NormalizeError (List NormalizedAmazonProduct)
  | [] => pure []
  | item :: items => do
      match ← normalizeProduct usdToJpyRate item with
      | none => normalizeItems usdToJpyRate seen items
      | some product =>
          if dedupeKey product ∈ seen then normalizeItems usdToJpyRate seen items
          else do
            let products ← normalizeItems usdToJpyRate (dedupeKey product :: seen) items
            pure (product :: products)

/-- `normalize_amazon_products_response`, at the configured exchange rate. -/
def normalizeAmazonProductsResponse (usdToJpyRate : ℤ) (response : Fields) :
    Except NormalizeError (List NormalizedAmazonProduct) :=
  normalizeItems usdToJpyRate [] (iterProductItems response)

end AmazonSimilarSearch.Search
