/-! Texts without regard to case. Only the letters of ASCII have two cases here: what is compared
this way are the names of headers and methods and the words for truth values. -/
namespace Census.Text

def lowerCase (s : String) : String :=
  String.ofList (s.toList.map Char.toLower)

def upperCase (s : String) : String :=
  String.ofList (s.toList.map Char.toUpper)

end Census.Text
