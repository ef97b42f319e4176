import ScenarioSuite.Text.CaseFold
import ScenarioSuite.Text.Property.Category
import ScenarioSuite.Text.Property.Listed
import ScenarioSuite.Text.Property.Segment
import ScenarioSuite.Text.Ranges

namespace ScenarioSuite.Text.Property

open Category

-- The properties that follow from categories, from lists and from each other.

def math : Ranges := .unions [mathSymbol,otherMath]

def graphemeBase : Ranges :=
  .compl (.unions [Category.control,format,privateUse,unassigned,lineSeparator,
    paragraphSeparator,graphemeExtend])

def outsideNames : Ranges := .unions [patternSyntax,patternWhiteSpace]

def idStart : Ranges := Ranges.diff (.unions [letter,letterNumber,otherIdStart]) outsideNames

def idContinue : Ranges :=
  Ranges.diff
    (.unions [idStart,nonspacingMark,Category.spacingMark,decimalNumber,connectorPunctuation,
      otherIdContinue])
    outsideNames

-- Characters that a normal form splits so that the parts are in no name.
def splitInNames : Ranges :=
  .ofText
    "37A 309B-309C FC5E-FC63 FDFA-FDFB FE70 FE72 FE74 FE76 FE78 FE7A FE7C FE7E"

def xidContinue : Ranges := idContinue.diff splitInNames

def xidStart : Ranges := idStart.diff (splitInNames.union (.ofText "E33 EB3 FF9E-FF9F"))

def idCompatMathContinue : Ranges :=
  idCompatMathStart.union (.ofText "B2-B3 B9 2070 2074-207E 2080-208E")

def cased : Ranges := .unions [lowercase,uppercase,titlecaseLetter]

def caseIgnorable : Ranges :=
  .unions [nonspacingMark,enclosingMark,format,modifierLetter,modifierSymbol,
    Segment.Word.middleLetter,Segment.Word.middleEither,Segment.Word.singleQuote]

def changesWhenLowercased : Ranges :=
  .union (.ofText "130") ((uppercase.union titlecaseLetter).inter casePairs)

def changesWhenUppercased : Ranges :=
  .union
    (.ofText
      ("131 149 1C5 1C8 1CB 1F0 1F2 587 1E96-1E9A 1F50 1F52 1F54 1F56 1F88-1F8F 1F98-1F9F " ++
       "1FA8-1FAF 1FB2 1FB4 1FB6-1FB7 1FBC 1FC2 1FC4 1FC6-1FC7 1FCC 1FD2 1FD6-1FD7 1FE2 1FE4 " ++
       "1FE6-1FE7 1FF2 1FF4 1FF6-1FF7 1FFC FB00-FB04 FB13-FB17"))
    (casePairs.diff changesWhenLowercased)

def changesWhenTitlecased : Ranges :=
  .union (.ofText "1C4 1C7 1CA 1F1")
    (changesWhenUppercased.diff
      (.ofText
        "1C5 1C8 1CB 1F2 10D0-10FA 10FD-10FF 1F88-1F8F 1F98-1F9F 1FA8-1FAF 1FBC 1FCC 1FFC"))

def changesWhenCasemapped : Ranges :=
  .unions [changesWhenLowercased,changesWhenUppercased,changesWhenTitlecased]

-- Folding goes to lower case but for one script, whose small letters came later.
def changesWhenCasefolded : Ranges :=
  .union
    (.ofText
      ("B5 DF 149 17F 345 3C2 3D0-3D1 3D5-3D6 3F0-3F1 3F5 587 13F8-13FD 1C80-1C88 1E9A-1E9B " ++
       "1F80-1F87 1F90-1F97 1FA0-1FA7 1FB2-1FB4 1FB7 1FC2-1FC4 1FC7 1FF2-1FF4 1FF7 AB70-ABBF " ++
       "FB00-FB06 FB13-FB17"))
    (changesWhenLowercased.diff (.ofText "13A0-13F5"))

def derived : List (List String × Ranges) :=
  [(["alpha","alphabetic"],alphabetic),
   (["lower","lowercase"],lowercase),
   (["upper","uppercase"],uppercase),
   (["math"],math),
   (["grext","graphemeextend"],graphemeExtend),
   (["grbase","graphemebase"],graphemeBase),
   (["di","defaultignorablecodepoint"],defaultIgnorable),
   (["ri","regionalindicator"],regionalIndicator),
   (["wspace","whitespace","space"],blankRanges),
   (["ids","idstart"],idStart),
   (["idc","idcontinue"],idContinue),
   (["xids","xidstart"],xidStart),
   (["xidc","xidcontinue"],xidContinue),
   (["idcompatmathcontinue"],idCompatMathContinue),
   (["cased"],cased),
   (["ci","caseignorable"],caseIgnorable),
   (["cwl","changeswhenlowercased"],changesWhenLowercased),
   (["cwu","changeswhenuppercased"],changesWhenUppercased),
   (["cwt","changeswhentitlecased"],changesWhenTitlecased),
   (["cwcm","changeswhencasemapped"],changesWhenCasemapped),
   (["cwcf","changeswhencasefolded"],changesWhenCasefolded)]

end ScenarioSuite.Text.Property

namespace ScenarioSuite.Text

open Category Property

def wordRanges : Ranges :=
  .unions [alphabetic,mark,decimalNumber,connectorPunctuation,joinControl]

def isWord (c : Char) : Bool := wordRanges.has c

def isAsciiWord (c : Char) : Bool := c.isAlphanum || c == '_'

end ScenarioSuite.Text
