import ScenarioSuite.Text.Property.Category
import ScenarioSuite.Text.Property.Listed
import ScenarioSuite.Text.Ranges

namespace ScenarioSuite.Text.Property

open Category

def alphabetic : Ranges := .unions [letter,letterNumber,otherAlphabetic]

def lowercase : Ranges := .unions [lowercaseLetter,otherLowercase]

def uppercase : Ranges := .unions [uppercaseLetter,otherUppercase]

def graphemeExtend : Ranges := .unions [nonspacingMark,enclosingMark,otherGraphemeExtend]

def defaultIgnorable : Ranges :=
  .ofText
    ("AD 34F 61C 115F-1160 17B4-17B5 180B-180F 200B-200F 202A-202E 2060-206F 3164 FE00-FE0F FEFF " ++
     "FFA0 FFF0-FFF8 1BCA0-1BCA3 1D173-1D17A E0000-E0FFF")

def regionalIndicator : Ranges := .ofText "1F1E6-1F1FF"

end ScenarioSuite.Text.Property

namespace ScenarioSuite.Text.Segment

open Category Property

abbrev Classes := List (List String × Ranges)

def carriageReturn : Ranges := .ofText "D"

def lineFeed : Ranges := .ofText "A"

def joiner : Ranges := .ofText "200D"

namespace Cluster

def prepend : Ranges :=
  .ofText
    ("600-605 6DD 70F 890-891 8E2 D4E 110BD 110CD 111C2-111C3 113D1 1193F 11941 11A3A 11A84-11A89 " ++
     "11D46 11F02")

def control : Ranges :=
  Ranges.diff
    (.unions [lineSeparator,paragraphSeparator,Category.control,format,
      unassigned.inter defaultIgnorable])
    (.unions [carriageReturn,lineFeed,prepend,.ofText "200C-200D E0020-E007F"])

def extend : Ranges := graphemeExtend.union emojiModifier

def spacingMark : Ranges :=
  .union (.ofText "E33 EB3")
    (Category.spacingMark.diff
      (extend.union
        (.ofText
          ("102B-102C 1038 1062-1064 1067-106D 1083 1087-108C 108F 109A-109C 1A61 1A63-1A64 AA7B " ++
           "AA7D 11720-11721"))))

-- The first of the 28 syllables that share a start have no final consonant.
def openSyllable : Ranges := (List.range 399).map fun i => (0xAC00 + 28 * i,0xAC00 + 28 * i)

def closedSyllable : Ranges :=
  (List.range 399).map fun i => (0xAC01 + 28 * i,0xAC1B + 28 * i)

def classes : Classes :=
  [(["cr"],carriageReturn), (["lf"],lineFeed), (["cn","control"],control),
   (["ex","extend"],extend), (["l"],.ofText "1100-115F A960-A97C"),
   (["v"],.ofText "1160-11A7 D7B0-D7C6 16D63 16D67-16D6A"),
   (["t"],.ofText "11A8-11FF D7CB-D7FB"), (["lv"],openSyllable), (["lvt"],closedSyllable),
   (["pp","prepend"],prepend), (["ri","regionalindicator"],regionalIndicator),
   (["sm","spacingmark"],spacingMark), (["zwj"],joiner)]

end Cluster

namespace Word

def hebrewLetter : Ranges :=
  .ofText
    "5D0-5EA 5EF-5F2 FB1D FB1F-FB28 FB2A-FB36 FB38-FB3C FB3E FB40-FB41 FB43-FB44 FB46-FB4F"

def katakana : Ranges :=
  .ofText
    ("3031-3035 309B-309C 30A0-30FA 30FC-30FF 31F0-31FF 32D0-32FE 3300-3357 FF66-FF9D 1AFF0-1AFF3 " ++
     "1AFF5-1AFFB 1AFFD-1AFFE 1B000 1B120-1B122 1B155 1B164-1B167")

def middleLetter : Ranges := .ofText "3A B7 387 55F 5F4 2027 FE13 FE55 FF1A"

def middleEither : Ranges := .ofText "2E 2018-2019 2024 FE52 FF07 FF0E"

def singleQuote : Ranges := .ofText "27"

def middleNumber : Ranges :=
  .ofText "2C 3B 37E 589 60C-60D 66C 7F8 2044 FE10 FE14 FE50 FE54 FF0C FF1B"

def extend : Ranges := .unions [graphemeExtend,Category.spacingMark,emojiModifier]

def format : Ranges := Category.format.diff (.ofText "200B-200D E0020-E007F")

def numeric : Ranges := decimalNumber.union (.ofText "66B")

def unspaced : Ranges :=
  .ofText
    ("E01-E30 E32-E33 E40-E46 E81-E82 E84 E86-E8A E8C-EA3 EA5 EA7-EB0 EB2-EB3 EBD EC0-EC4 EC6 " ++
     "EDC-EDF 1000-102A 103F 1050-1055 105A-105D 1061 1065-1066 106E-1070 1075-1081 108E " ++
     "1780-17B3 17D7 17DC 1950-196D 1970-1974 1980-19AB 19B0-19C9 1A20-1A54 1AA7 3041-3096 " ++
     "309D-309F A9E0-A9E4 A9E6-A9EF A9FA-A9FE AA60-AA76 AA7A AA7E-AAAF AAB1 AAB5-AAB6 AAB9-AABD " ++
     "AAC0 AAC2 AADB-AADD 11700-1171A 11740-11746 1B001-1B11F 1B132 1B150-1B152")

def letterSign : Ranges :=
  .ofText
    ("2C2-2C5 2D2-2D7 2DE-2DF 2E5-2EB 2ED 2EF-2FF 55A-55C 55E 58A 5F3 A708-A716 A720-A721 " ++
     "A789-A78A AB5B")

def letter : Ranges :=
  .union letterSign
    (alphabetic.diff (.unions [ideographic,katakana,hebrewLetter,extend,unspaced]))

def blank : Ranges := .ofText "20 1680 2000-2006 2008-200A 205F 3000"

def classes : Classes :=
  [(["cr"],carriageReturn), (["lf"],lineFeed), (["nl","newline"],.ofText "B-C 85 2028-2029"),
   (["dq","doublequote"],.ofText "22"), (["sq","singlequote"],singleQuote),
   (["hl","hebrewletter"],hebrewLetter), (["ka","katakana"],katakana), (["le","aletter"],letter),
   (["ml","midletter"],middleLetter), (["mb","midnumlet"],middleEither),
   (["mn","midnum"],middleNumber), (["nu","numeric"],numeric),
   (["ex","extendnumlet"],.ofText "5F 202F 203F-2040 2054 FE33-FE34 FE4D-FE4F FF3F"),
   (["extend"],extend), (["fo","format"],format), (["ri","regionalindicator"],regionalIndicator),
   (["wsegspace"],blank), (["zwj"],joiner)]

end Word

namespace Sentence

def extend : Ranges := .unions [graphemeExtend,Category.spacingMark,joiner]

def lower : Ranges := (lowercase.diff extend).diff (.ofText "10D0-10FA 10FD-10FF")

def upper : Ranges := (uppercase.union titlecaseLetter).diff (.ofText "1C90-1CBA 1CBD-1CBF")

def letter : Ranges :=
  .union (.ofText "5F3") (alphabetic.diff (.unions [lower,upper,extend]))

def weakEnd : Ranges := .ofText "2E 2024 FE52 FF0E"

def separator : Ranges := .ofText "85 2028-2029"

def close : Ranges :=
  Ranges.diff
    (.unions [openPunctuation,closePunctuation,initialPunctuation,finalPunctuation,quotationMark,
      .ofText "275B-2760 2E00-2E01 2E06-2E08 2E0B 1F676-1F678"])
    (.ofText "FF02 FF07")

def goingOn : Ranges :=
  .ofText
    ("2C-2D 3A 55D 60C-60D 7F8 1802 1808 2013-2014 3001 FE10-FE11 FE13 FE31-FE32 FE50-FE51 FE55 " ++
     "FE58 FE63 FF0C-FF0D FF1A FF64")

def classes : Classes :=
  [(["cr"],carriageReturn), (["lf"],lineFeed), (["se","sep"],separator),
   (["sp"],Ranges.diff blankRanges (.unions [carriageReturn,lineFeed,separator])),
   (["lo","lower"],lower), (["up","upper"],upper), (["le","oletter"],letter),
   (["nu","numeric"],Word.numeric.union (.ofText "66C")), (["at","aterm"],weakEnd),
   (["st","sterm"],sentenceTerminal.diff weakEnd), (["cl","close"],close),
   (["sc","scontinue"],goingOn), (["ex","extend"],extend),
   (["fo","format"],Word.format.union (.ofText "200B"))]

end Sentence

end ScenarioSuite.Text.Segment
