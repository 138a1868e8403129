/-!
The encodings of source files and their names. A name may be written in many ways: case does not
count, and neither does what separates its words. The tables hold the names that are known
everywhere, and a registry holds further ones. What is left out are encodings beside the ones here.
-/

namespace KayLexer

/-- The encodings of source files. -/
inductive Encoding where
  | utf8
  /-- UTF-8 with an optional byte order mark in front. -/
  | utf8Signed
  | ascii
  | latin1
  | windows1252
  /-- UTF-16 with a byte order mark in front. -/
  | utf16
  | utf16LittleEndian
  | utf16BigEndian
  | big5hkscs
  /-- An encoding in which nothing can be read. -/
  | undefined
  deriving DecidableEq

namespace Encoding

/-- Why a name gives no encoding. -/
inductive NameError where
  | hasNul
  | unknown (name : String)
  deriving DecidableEq

def NameError.message : NameError → String
  | hasNul => "embedded null character"
  | unknown name => "unknown encoding: " ++ name

/-! ### Names in normal form -/

/-- The characters that count in a name. -/
def isNameChar (c : Char) : Bool := c.isAlphanum || c = '.'

/-- Lower case, and one underscore for each run of other characters that stands between two that
count. `begun` says that a counting character came before, `apart` that others came since. -/
def normalizeFrom (begun apart : Bool) : List Char → List Char
  | [] => []
  | c :: cs =>
    if !isNameChar c then normalizeFrom begun true cs
    else if begun && apart then '_' :: c.toLower :: normalizeFrom true false cs
    else c.toLower :: normalizeFrom true false cs

def normalize (name : String) : String := String.ofList (normalizeFrom false false name.toList)

/-! ### Tables -/

/-- The name of each encoding in normal form. -/
def properNames : List (String × Encoding) :=
  [("utf_8", utf8), ("ascii", ascii), ("latin_1", latin1), ("utf_8_sig", utf8Signed),
   ("utf_16", utf16), ("utf_16_le", utf16LittleEndian), ("utf_16_be", utf16BigEndian),
   ("cp1252", windows1252), ("big5hkscs", big5hkscs), ("undefined", undefined)]

/-- Other names in normal form. -/
def aliases : List (String × Encoding) :=
  [("u8", utf8), ("utf", utf8), ("utf8", utf8), ("utf8_ucs2", utf8), ("utf8_ucs4", utf8),
   ("cp65001", utf8), ("646", ascii), ("ansi_x3.4_1968", ascii), ("ansi_x3_4_1968", ascii),
   ("ansi_x3.4_1986", ascii), ("cp367", ascii), ("csascii", ascii), ("ibm367", ascii),
   ("iso646_us", ascii), ("iso_646.irv_1991", ascii), ("iso_ir_6", ascii), ("us", ascii),
   ("us_ascii", ascii), ("8859", latin1), ("cp819", latin1), ("csisolatin1", latin1),
   ("ibm819", latin1), ("iso8859", latin1), ("iso8859_1", latin1), ("iso_8859_1", latin1),
   ("iso_8859_1_1987", latin1), ("iso_ir_100", latin1), ("l1", latin1), ("latin", latin1),
   ("latin1", latin1), ("u16", utf16), ("utf16", utf16),
   ("unicodelittleunmarked", utf16LittleEndian), ("utf_16le", utf16LittleEndian),
   ("unicodebigunmarked", utf16BigEndian), ("utf_16be", utf16BigEndian), ("1252", windows1252),
   ("windows_1252", windows1252), ("big5_hkscs", big5hkscs), ("hkscs", big5hkscs)]

/-- The encoding of a name in normal form. In an alias, but not in a proper name, a dot may stand
for an underscore. -/
def ofNormal? (name : String) : Option Encoding :=
  aliases.lookup name <|> aliases.lookup (name.map fun c => if c = '.' then '_' else c) <|>
    properNames.lookup name

/-- A registry of further names, and the encodings that they stand for. -/
abbrev Registry := String → Option Encoding

/-- No further name is known. -/
def Registry.empty : Registry := fun _ => none

/-- The encoding that a name stands for. The tables come before the registry. -/
def ofName (name : String) (registry : Registry := .empty) : Except NameError Encoding :=
  if name.toList.contains '\x00' then .error .hasNul
  else match (ofNormal? (normalize name)).or (registry name) with
    | some e => .ok e
    | none => .error (.unknown name)

end Encoding

end KayLexer
