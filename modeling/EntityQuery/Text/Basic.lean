set_option autoImplicit false

namespace EntityQuery.Text

def isBlank (c : Char) : Bool :=
  let n := c.toNat
  (0x9 ≤ n && n ≤ 0xD) || n == 0x20 || n == 0x85 || n == 0xA0 || n == 0x1680 ||
    (0x2000 ≤ n && n ≤ 0x200A) || n == 0x2028 || n == 0x2029 || n == 0x202F || n == 0x205F ||
    n == 0x3000

def skipBlanks (cs : List Char) : List Char :=
  cs.dropWhile isBlank

def trimChars (cs : List Char) : List Char :=
  (skipBlanks (skipBlanks cs).reverse).reverse

def trim (s : String) : String :=
  String.ofList (trimChars s.toList)

def isBlankText (s : String) : Bool :=
  trim s = ""

def splitChars (sep : Char) : List Char → List (List Char)
  | [] => [[]]
  | c :: cs =>
    if c = sep then [] :: splitChars sep cs
    else match splitChars sep cs with
      -- There is always a piece.
      | [] => [[c]]
      | piece :: rest => (c :: piece) :: rest

def split (sep : Char) (s : String) : List String :=
  (splitChars sep s.toList).map String.ofList

def join (sep : String) : List String → String
  | [] => ""
  | [s] => s
  | s :: rest => s ++ sep ++ join sep rest

def foldAsciiChar (c : Char) : Char :=
  if 'A' ≤ c ∧ c ≤ 'Z' then Char.ofNat (c.toNat + 32) else c

def foldAscii (s : String) : String :=
  String.ofList (s.toList.map foldAsciiChar)

def sameIgnoringAsciiCase (s t : String) : Bool :=
  foldAscii s = foldAscii t

def containsChars (piece : List Char) : List Char → Bool
  | [] => piece.isEmpty
  | c :: cs => piece.isPrefixOf (c :: cs) || containsChars piece cs

def contains (s piece : String) : Bool :=
  containsChars piece.toList s.toList

def startsWith (s piece : String) : Bool :=
  piece.toList.isPrefixOf s.toList

def endsWith (s piece : String) : Bool :=
  piece.toList.isSuffixOf s.toList

def byteLength (s : String) : Nat :=
  s.utf8ByteSize

end EntityQuery.Text
