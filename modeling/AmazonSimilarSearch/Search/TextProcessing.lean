import AmazonSimilarSearch.Foundation.Casefold
import AmazonSimilarSearch.Foundation.FirstOfKey
import Mathlib.Data.List.Infix

/-!
# Words of a text

`text_processing.py` folds the case of a text and cuts it into words: runs of letters and
digits, and the Japanese words that a tokenizer finds in it.
-/
namespace AmazonSimilarSearch.Search
open Foundation

/-- What the tokenizer knows of a word. -/
structure Morpheme where
  normalizedForm : String
  surface : String
  /-- `part_of_speech()[0]` -/
  partOfSpeech : String

/-- `SUDACHI_TOKENIZER.tokenize(text, SUDACHI_MODE)` -/
abbrev Tokenizer := String → List Morpheme

def contentPartsOfSpeech : List String := ["名詞", "動詞", "形容詞", "形状詞"]

/-- `[\u3040-\u30ff\u4e00-\u9fff]` -/
def isJapaneseCharacter (c : Char) : Bool :=
  (0x3040 ≤ c.toNat && c.toNat ≤ 0x30ff) || (0x4e00 ≤ c.toNat && c.toNat ≤ 0x9fff)

/-- `[a-z0-9]` -/
def isEnglishCharacter (c : Char) : Bool :=
  ('a' ≤ c && c ≤ 'z') || ('0' ≤ c && c ≤ '9')

def normalizeText (text : String) : String := casefold text

def normalizedMorphemeText (morpheme : Morpheme) : String :=
  strip (normalizeText
    (if morpheme.normalizedForm = "*" then morpheme.surface else morpheme.normalizedForm))

def isContentJapaneseToken (token : String) (morpheme : Morpheme) : Bool :=
  token ≠ "" && contentPartsOfSpeech.contains morpheme.partOfSpeech &&
    token.toList.any isJapaneseCharacter

/-- `[value.strip() for value in values if value and value.strip()]` -/
def strippedValues (values : List (Option String)) : List String :=
  (values.filterMap fun value => value.map strip).filter (· ≠ "")

/-- `clean_dupe_empty(values)`: of the values that are the same but for case, the first one. -/
def cleanDupeEmpty (values : List (Option String)) : List String :=
  firstOfKey casefold [] (strippedValues values)

/-- `ENGLISH_TOKEN_PATTERN.findall(text)` -/
def englishTokens (text : String) : List String :=
  ((text.toList.splitBy fun c d => isEnglishCharacter c == isEnglishCharacter d).filter
    fun run => run.any isEnglishCharacter).map String.ofList

section Tokens

variable (tokenize : Tokenizer)

def splitJapaneseWords (text : String) : List String :=
  (tokenize text).filterMap fun morpheme =>
    if isContentJapaneseToken (normalizedMorphemeText morpheme) morpheme then
      some (normalizedMorphemeText morpheme)
    else none

/-- `split_words(text, dedupe=dedupe)` -/
def splitWords (dedupe : Bool) (text : String) : List String :=
  let normalized := normalizeText text
  let tokens := englishTokens normalized ++ splitJapaneseWords tokenize normalized
  if dedupe then cleanDupeEmpty (tokens.map some) else tokens.filter (· ≠ "")

/-- `term_matches_text(term, text)`: the whole term, or all of its words, are in the text. -/
def termMatchesText (term text : String) : Bool :=
  let normalizedTerm := strip (normalizeText term)
  let normalizedText := normalizeText text
  let termWords := splitWords tokenize true normalizedTerm
  let textWords := splitWords tokenize true normalizedText
  normalizedTerm ≠ "" &&
    (decide (normalizedTerm.toList <:+: normalizedText.toList) ||
      (!termWords.isEmpty && termWords.all (textWords.contains ·)))

/-- `build_tfidf_text(values, dedupe=dedupe)` -/
def buildTfidfText (dedupe : Bool) (values : List (Option String)) : String :=
  let cleanedValues := if dedupe then cleanDupeEmpty values else strippedValues values
  " ".intercalate (splitWords tokenize dedupe (" ".intercalate cleanedValues))

end Tokens

/-- The values that are kept differ by more than case. -/
theorem cleanDupeEmpty_pairwise (values : List (Option String)) :
    (cleanDupeEmpty values).Pairwise fun a b => casefold a ≠ casefold b :=
  firstOfKey_pairwise casefold [] _

end AmazonSimilarSearch.Search
