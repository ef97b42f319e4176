import ScenarioSuite.Text.Property.Segment

namespace ScenarioSuite.Text

open Category

namespace Recent

-- What the latest version of the standard added to the tables of properties. Names and
-- quoted texts know these characters, patterns do not.

def alphabetic : Ranges :=
  .ofText
    ("88F C5C CDC A7CE-A7CF A7D2 A7D4 A7F1 10940-10959 10EC5-10EC7 10EFA-10EFB 11B60-11B67 " ++
     "11DB0-11DDB 16EA0-16EB8 16EBB-16ED3 16FF2-16FF6 187F8-187FF 18D09-18D1E 18D80-18DF2 " ++
     "1E6C0-1E6DE 1E6E0-1E6F5 1E6FE-1E6FF 2B73A-2B73F 2CEA2-2CEAD 323B0-33479")

def number : Ranges := .ofText "11DE0-11DE9 16FF4-16FF6"

def graphemeExtend : Ranges :=
  .ofText
    "1ACF-1ADD 1AE0-1AEB 10EFA-10EFB 11B60 11B62-11B64 11B66 1E6E3 1E6E6 1E6EE-1E6EF 1E6F5"

def other : Ranges :=
  .ofText
    ("20C1 2B96 FBC3-FBD2 FD90-FD91 FDC8-FDCE 10ED0-10ED8 1CCFA-1CCFC 1CEBA-1CED0 " ++
     "1CEE0-1CEF0 1F6D8 1F777-1F77A 1F8D0-1F8D8 1FA54-1FA57 1FA8A 1FA8E 1FAC8 1FACD 1FAEA " ++
     "1FAEF 1FBFA")

def all : Ranges := .unions [alphabetic,number,graphemeExtend,other]

end Recent

def letterRanges : Ranges := Property.alphabetic.union Recent.alphabetic

def isLetter (c : Char) : Bool := letterRanges.has c

def numberRanges : Ranges := Category.number.union Recent.number

def isNumber (c : Char) : Bool := numberRanges.has c

def hiddenRanges : Ranges :=
  Ranges.diff (.unions [other,separator,Property.defaultIgnorable]) Recent.all

def extendingRanges : Ranges := Property.graphemeExtend.union Recent.graphemeExtend

def isPrintable (c : Char) : Bool :=
  c == ' ' || !(hiddenRanges.has c || extendingRanges.has c)

def hexDigits (n : Nat) : List Char := Nat.toDigits 16 n

def escapeChar (c : Char) : List Char :=
  match c with
  | '"' => ['\\','"']
  | '\\' => ['\\','\\']
  | '\n' => ['\\','n']
  | '\r' => ['\\','r']
  | '\t' => ['\\','t']
  | '\x00' => ['\\','0']
  | c => if isPrintable c then [c] else ['\\','u','\x7b'] ++ hexDigits c.toNat ++ ['\x7d']

def quoted (text : String) : String :=
  String.ofList ('"' :: text.toList.flatMap escapeChar ++ ['"'])

end ScenarioSuite.Text
