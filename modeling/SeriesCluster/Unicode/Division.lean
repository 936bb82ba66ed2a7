import SeriesCluster.Unicode.Property

namespace SeriesCluster

namespace Unicode

open GeneralCategory

def codeOf (c : Char) : CodeSet := .single c

def carriageReturn : CodeSet := codeOf '\r'

def lineFeed : CodeSet := codeOf '\n'

def zeroWidthJoiner : CodeSet := .ofText "200d"

def regionalIndicator : CodeSet := .ofText "1f1e6-1f1ff"

def prependMark : CodeSet := .ofText
  (String.join [
    "600-605 6dd 70f 890-891 8e2 d4e 110bd 110cd 111c2-111c3 113d1 1193f 11941 11a3a ",
    "11a84-11a89 11d46 11f02"])

def clusterExtend : CodeSet := graphemeExtend.union emojiModifier

def clusterControl : CodeSet :=
  let ignored := (setOf [unassigned]).inter defaultIgnorable
  (ignored.union (setOf [control, format, lineSeparator, paragraphSeparator])).diff
    (.unionAll [carriageReturn, lineFeed, zeroWidthJoiner, clusterExtend, prependMark])

def clusterSpacingMark : CodeSet :=
  (((setOf [spacingMark]).diff clusterExtend).diff (.ofText
    (String.join [
      "102b-102c 1038 1062-1064 1067-106d 1083 1087-108c 108f 109a-109c 1a61 1a63-1a64 aa7b ",
      "aa7d 11720-11721"]))).union
    (.ofText "e33 eb3")

def hangulOpen : CodeSet :=
  .ofRanges ((List.range 399).map fun i => (0xac00 + 28 * i, 0xac00 + 28 * i))

def hangulClosed : CodeSet := (CodeSet.range 0xac00 0xd7a3).diff hangulOpen

def clusterClass? : String → Option CodeSet
  | "cn" | "control" => some clusterControl
  | "cr" => some carriageReturn
  | "lf" => some lineFeed
  | "ex" | "extend" => some clusterExtend
  | "pp" | "prepend" => some prependMark
  | "sm" | "spacingmark" => some clusterSpacingMark
  | "l" => some (.ofText "1100-115f a960-a97c")
  | "v" => some (.ofText "1160-11a7 d7b0-d7c6 16d63 16d67-16d6a")
  | "t" => some (.ofText "11a8-11ff d7cb-d7fb")
  | "lv" => some hangulOpen
  | "lvt" => some hangulClosed
  | "ri" | "regionalindicator" => some regionalIndicator
  | "zwj" => some zeroWidthJoiner
  | _ => none

def wordExtend : CodeSet :=
  (CodeSet.unionAll [graphemeExtend, setOf [spacingMark], emojiModifier]).diff zeroWidthJoiner

def hebrewLetter : CodeSet := .ofText
  "5d0-5ea 5ef-5f2 fb1d fb1f-fb28 fb2a-fb36 fb38-fb3c fb3e fb40-fb41 fb43-fb44 fb46-fb4f"

def katakanaLetter : CodeSet := .ofText
  (String.join [
    "3031-3035 309b-309c 30a0-30fa 30fc-30ff 31f0-31ff 32d0-32fe 3300-3357 ff66-ff9d ",
    "1aff0-1aff3 1aff5-1affb 1affd-1affe 1b000 1b120-1b122 1b155 1b164-1b167"])

def unspacedLetter : CodeSet := .ofText
  (String.join [
    "e01-e30 e32-e33 e40-e46 e81-e82 e84 e86-e8a e8c-ea3 ea5 ea7-eb0 eb2-eb3 ebd ec0-ec4 ec6 ",
    "edc-edf 1000-102a 103f 1050-1055 105a-105d 1061 1065-1066 106e-1070 1075-1081 108e ",
    "1780-17b3 17d7 17dc 1950-196d 1970-1974 1980-19ab 19b0-19c9 1a20-1a54 1aa7 3041-3096 ",
    "309d-309f a9e0-a9e4 a9e6-a9ef a9fa-a9fe aa60-aa76 aa7a aa7e-aaaf aab1 aab5-aab6 aab9-aabd ",
    "aac0 aac2 aadb-aadd 11700-1171a 11740-11746 1b001-1b11f 1b132 1b150-1b152"])

def letterMark : CodeSet := .ofText
  (String.join [
    "2c2-2c5 2d2-2d7 2de-2df 2e5-2eb 2ed 2ef-2ff 55a-55c 55e 58a 5f3 70f a708-a716 a720-a721 ",
    "a789-a78a ab5b"])

def wordLetter : CodeSet :=
  (alphabetic.diff
    (.unionAll [wordExtend, hebrewLetter, katakanaLetter, ideographic, unspacedLetter])).union
    letterMark

def wordClass? : String → Option CodeSet
  | "le" | "aletter" => some wordLetter
  | "cr" => some carriageReturn
  | "dq" | "doublequote" => some (codeOf '"')
  | "ex" | "extendnumlet" => some ((setOf [connectorPunctuation]).union (.ofText "202f"))
  | "extend" => some wordExtend
  | "fo" | "format" => some ((setOf [format]).diff (.ofText
      "600-605 6dd 70f 890-891 8e2 200b-200d 110bd 110cd e0020-e007f"))
  | "hl" | "hebrewletter" => some hebrewLetter
  | "ka" | "katakana" => some katakanaLetter
  | "lf" => some lineFeed
  | "mb" | "midnumlet" => some (.ofText "2e 2018-2019 2024 fe52 ff07 ff0e")
  | "ml" | "midletter" => some (.ofText "3a b7 387 55f 5f4 2027 fe13 fe55 ff1a")
  | "mn" | "midnum" => some (.ofText
      "2c 3b 37e 589 60c-60d 66c 7f8 2044 fe50 fe54 ff0c ff1b")
  | "nl" | "newline" => some (.ofText "b-c 85 2028-2029")
  | "nu" | "numeric" => some ((setOf [decimalNumber]).union (.ofText
      "600-605 66b 6dd 890-891 8e2 19da 110bd 110cd"))
  | "ri" | "regionalindicator" => some regionalIndicator
  | "sq" | "singlequote" => some (.ofText "27")
  | "wsegspace" => some (.ofText "20 1680 2000-2006 2008-200a 205f 3000")
  | "zwj" => some zeroWidthJoiner
  | _ => none

def sentenceExtend : CodeSet :=
  .unionAll [graphemeExtend, setOf [spacingMark], zeroWidthJoiner]

def sentenceLower : CodeSet :=
  (lowercase.diff sentenceExtend).diff (.ofText "10d0-10fa 10fd-10ff")

def sentenceUpper : CodeSet :=
  (uppercase.union (setOf [titlecaseLetter])).diff (.ofText "1c90-1cba 1cbd-1cbf")

def sentenceSeparator : CodeSet := .ofText "85 2028-2029"

def fullStop : CodeSet := .ofText "2e 2024 fe52 ff0e"

def sentenceClass? : String → Option CodeSet
  | "at" | "aterm" => some fullStop
  | "cl" | "close" => some <|
    (setOf [openPunctuation, closePunctuation, initialPunctuation, finalPunctuation]).union
      (.ofText
        "22 27 275b-2760 2e00-2e01 2e06-2e08 2e0b 1f676-1f678")
  | "cr" => some carriageReturn
  | "ex" | "extend" => some sentenceExtend
  | "fo" | "format" => some <|
    ((setOf [format]).diff sentenceExtend).diff (.ofText
      "600-605 6dd 890-891 8e2 110bd 110cd")
  | "le" | "oletter" => some <|
    (alphabetic.union (.ofText "5f3")).diff
      (.unionAll [sentenceLower, sentenceUpper, sentenceExtend])
  | "lf" => some lineFeed
  | "lo" | "lower" => some sentenceLower
  | "nu" | "numeric" => some ((setOf [decimalNumber]).union (.ofText
      "600-605 66b-66c 6dd 890-891 8e2 19da 110bd 110cd"))
  | "sc" | "scontinue" => some (.ofText
      (String.join [
        "2c-2d 3a-3b 37e 55d 60c-60d 7f8 1802 1808 2013-2014 3001 fe10-fe11 fe13-fe14 fe31-fe32 ",
        "fe50-fe51 fe54-fe55 fe58 fe63 ff0c-ff0d ff1a-ff1b ff64"]))
  | "se" | "sep" => some sentenceSeparator
  | "sp" => some <| whiteSpace.diff (.unionAll [sentenceSeparator, carriageReturn, lineFeed])
  | "st" | "sterm" => some (sentenceTerminal.diff fullStop)
  | "up" | "upper" => some sentenceUpper
  | _ => none

end Unicode

end SeriesCluster
