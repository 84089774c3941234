namespace Passbook.Text

def containsChars (word : List Char) : List Char → Bool
  | [] => word.isEmpty
  | c :: rest => word.isPrefixOf (c :: rest) || containsChars word rest

def contains (word text : String) : Bool := containsChars word.toList text.toList

def removeAllFrom (word : List Char) : Nat → List Char → List Char
  | _, [] => []
  | skip + 1, _ :: rest => removeAllFrom word skip rest
  | 0, c :: rest =>
    if word.isPrefixOf (c :: rest) then removeAllFrom word (word.length - 1) rest
    else c :: removeAllFrom word 0 rest

def removeAll (word : List Char) (cs : List Char) : List Char := removeAllFrom word 0 cs

end Passbook.Text
