import SeriesCluster.Unicode.Age
import SeriesCluster.Unicode.Case
import SeriesCluster.Unicode.Division
import SeriesCluster.Unicode.Script

namespace SeriesCluster

namespace Unicode

def looseName (name : String) : String :=
  let named := name.toList.map Char.toLower
  let (hasIs, named) := match named with
    | 'i' :: 's' :: rest => (true, rest)
    | rest => (false, rest)
  let kept := named.filter fun c => c.toNat < 0x80 && c != ' ' && c != '_' && c != '-'
  -- `isc` is a name of its own, and not that of the category `c`.
  if hasIs && kept == ['c'] then "isc" else String.ofList kept

def categorySet? : String → Option CodeSet
  | "any" => some .full
  | "assigned" => some (GeneralCategory.setOf [.unassigned]).complement
  | "ascii" => some (.range 0 0x7f)
  | name => (GeneralCategory.named? name).map GeneralCategory.setOf

def setNamed? (name : String) : Option CodeSet :=
  let name := looseName name
  ((property? name).orElse fun _ => caseProperty? name)
    |>.orElse fun _ => categorySet? name
    |>.orElse fun _ => (scriptNamed? name).map script

def setWithValue? (property value : String) : Option CodeSet :=
  let value := looseName value
  match looseName property with
  | "gc" | "generalcategory" => categorySet? value
  | "sc" | "script" => (scriptNamed? value).map script
  | "scx" | "scriptextensions" => (scriptNamed? value).map scriptExtension
  | "age" => assignedIn? value
  | "gcb" | "graphemeclusterbreak" => clusterClass? value
  | "wb" | "wordbreak" => wordClass? value
  | "sb" | "sentencebreak" => sentenceClass? value
  | _ => none

end Unicode

end SeriesCluster
