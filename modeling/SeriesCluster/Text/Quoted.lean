import SeriesCluster.Unicode.Property

namespace SeriesCluster.Text

/-- The characters that cannot be seen alone: those that join the one before, those without a shape
or a meaning, and all blanks but the plain one. -/
def unseen : CodeSet :=
  Unicode.graphemeExtend.union <|
    (GeneralCategory.setOf (GeneralCategory.others ++ GeneralCategory.separators)).diff
      (.single ' ')

def shownChar (c : Char) : List Char :=
  match c with
  | '"' => ['\\', '"']
  | '\\' => ['\\', '\\']
  | '\n' => ['\\', 'n']
  | '\r' => ['\\', 'r']
  | '\t' => ['\\', 't']
  | '\x00' => ['\\', '0']
  | c =>
    if unseen.contains c.toNat then
      '\\' :: 'u' :: '\x7b' :: Nat.toDigits 16 c.toNat ++ ['\x7d']
    else [c]

def quoted (s : String) : String := String.ofList ('"' :: s.toList.flatMap shownChar ++ ['"'])

end SeriesCluster.Text
