import ScenarioSuite.Text.Property.Age
import ScenarioSuite.Text.Property.Derived
import ScenarioSuite.Text.Property.Script

namespace ScenarioSuite.Text.Property

-- The form in which names are compared: case, blanks, hyphens, underscores, whatever is
-- not ASCII, and a leading `is` make no difference. Only `isc` is a name of its own.
def looseName (name : List Char) : String :=
  let plain (text : List Char) : List Char :=
    (text.filter fun c => c.toNat < 128 && c != ' ' && c != '_' && c != '-').map Char.toLower
  match name with
  | first :: second :: rest =>
      if first.toLower = 'i' ∧ second.toLower = 's' then
        if plain rest = ['c'] then "isc" else String.ofList (plain rest)
      else String.ofList (plain name)
  | _ => String.ofList (plain name)

def lookup? (table : List (List String × Ranges)) (name : String) : Option Ranges :=
  (table.find? fun entry => entry.1.contains name).map Prod.snd

def ofName? (name : List Char) : Option Ranges :=
  let name := looseName name
  ((lookup? (listed ++ derived) name).or (lookup? Category.named name)).or
    (lookup? Script.named name)

def ofValue? (property value : List Char) : Option Ranges :=
  let value := looseName value
  match looseName property with
  | "gc" | "generalcategory" => lookup? Category.named value
  | "sc" | "script" => lookup? Script.named value
  | "scx" | "scriptextensions" => lookup? Script.namedSpread value
  | "age" => Age.upTo? value
  | "gcb" | "graphemeclusterbreak" => lookup? Segment.Cluster.classes value
  | "wb" | "wordbreak" => lookup? Segment.Word.classes value
  | "sb" | "sentencebreak" => lookup? Segment.Sentence.classes value
  | _ => none

end ScenarioSuite.Text.Property
